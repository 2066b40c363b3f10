import Mathlib.Data.Set.Insert
import StyleObject.Files.Host
import StyleObject.Proofs.Files.Path

/-!
# Views

What is seen of a host from outside: standard output, where the paths lead, and what the files there
hold. On a lawful host an operation changes no more of this than it says, and an operation on a file
either succeeds or fails without effect. Standard output may have got a beginning of a text when it
fails. The laws leave open which operations fail, and why.

Sessions are lawful. Their paths are walked anew for each operation, so the point to be shown is
that a file put where a path leads does not divert this path or another one.
-/
namespace StyleObject

structure View (σ P : Type) where
  /-- All that was written to standard output. -/
  output : σ → Text
  /-- The place of the file that a path leads to, where there may be no file yet. -/
  place? : σ → Text → Option P
  /-- What the file at a place holds. -/
  content? : σ → P → Option ByteArray

namespace View

variable {σ P : Type} {v : View σ P} {ps qs : Set P} {s s' s'' : σ}

/-- The bytes at a place, which are none if there is no file. -/
def bytes (v : View σ P) (s : σ) (p : P) : ByteArray := (v.content? s p).getD .empty

/-- Paths lead where they led, and no file has changed except at some places. -/
structure FilesBut (v : View σ P) (ps : Set P) (s s' : σ) : Prop where
  place : ∀ path, v.place? s' path = v.place? s path
  content : ∀ p, p ∉ ps → v.content? s' p = v.content? s p

/-- Nothing that is seen has changed, except for the files at some places. -/
structure Kept (v : View σ P) (ps : Set P) (s s' : σ) : Prop extends v.FilesBut ps s s' where
  output : v.output s' = v.output s

theorem FilesBut.trans (h : v.FilesBut ps s s') (h' : v.FilesBut qs s' s'') :
    v.FilesBut (ps ∪ qs) s s'' where
  place path := (h'.place path).trans (h.place path)
  content p hp := by
    rw [Set.mem_union, not_or] at hp
    exact (h'.content p hp.2).trans (h.content p hp.1)

theorem FilesBut.bytes (h : v.FilesBut ps s s') {p : P} (hp : p ∉ ps) :
    v.bytes s' p = v.bytes s p := by
  rw [View.bytes, h.content p hp, View.bytes]

theorem FilesBut.mono (h : v.FilesBut ps s s') (hs : ps ⊆ qs) : v.FilesBut qs s s' where
  place := h.place
  content p hp := h.content p fun hm => hp (hs hm)

theorem Kept.refl : v.Kept ps s s := ⟨⟨fun _ => rfl, fun _ _ => rfl⟩, rfl⟩

theorem Kept.trans (h : v.Kept ps s s') (h' : v.Kept qs s' s'') : v.Kept (ps ∪ qs) s s'' :=
  ⟨h.toFilesBut.trans h'.toFilesBut, h'.output.trans h.output⟩

theorem Kept.mono (h : v.Kept ps s s') (hs : ps ⊆ qs) : v.Kept qs s s' :=
  ⟨h.toFilesBut.mono hs, h.output⟩

/-- How the file at a path can have been changed: it holds what it has to and nothing else is
different, or the change failed and nothing is different. -/
inductive Changed (v : View σ P) (path : Text) (change : Option ByteArray → ByteArray) (s : σ) :
    Except FileFault Unit → σ → Prop where
  | done {p : P} {s' : σ} : v.place? s path = some p →
      v.content? s' p = some (change (v.content? s p)) → v.Kept {p} s s' →
      Changed v path change s (.ok ()) s'
  | failed {fault : FileFault} {s' : σ} : v.Kept ∅ s s' →
      Changed v path change s (.error fault) s'

/-- A change to a file, successful or not, changes no more than the file that the path leads to. -/
theorem Changed.kept {path : Text} {change : Option ByteArray → ByteArray}
    {r : Except FileFault Unit} (h : v.Changed path change s r s') :
    v.Kept {p | v.place? s path = some p} s s' := by
  cases h with
  | done hp _ hk => exact hk.mono (Set.singleton_subset_iff.mpr hp)
  | failed hk => exact hk.mono (Set.empty_subset _)

/-- How a text can have been written to standard output, which is no file: it stands behind what was
there, or that failed and no more than a beginning of it stands there. -/
inductive Printed (v : View σ P) (text : Text) (s : σ) : Except FileFault Unit → σ → Prop where
  | done {s' : σ} : v.output s' = v.output s ++ text → v.FilesBut ∅ s s' →
      Printed v text s (.ok ()) s'
  | failed {fault : FileFault} {got : Text} {s' : σ} : got <+: text →
      v.output s' = v.output s ++ got → v.FilesBut ∅ s s' → Printed v text s (.error fault) s'

/-- Writing to standard output, successful or not, changes no file. -/
theorem Printed.filesBut {text : Text} {r : Except FileFault Unit} (h : v.Printed text s r s') :
    v.FilesBut ∅ s s' := by
  cases h with
  | done _ hf => exact hf
  | failed _ _ hf => exact hf

end View

namespace Host

/-- A path leads to a place where a file can be appended to, for as long as nothing else changes. -/
structure Openable {σ P : Type} (host : Host (StateM σ)) (v : View σ P) (path : Text) (p : P)
    (s : σ) : Prop where
  place : v.place? s path = some p
  append : ∀ s' content, v.Kept {p} s s' → (host.append path content s').1 = .ok ()

theorem Openable.of_kept {σ P : Type} {host : Host (StateM σ)} {v : View σ P} {path : Text} {p : P}
    {s s' : σ} (h : host.Openable v path p s) (hk : v.Kept {p} s s') :
    host.Openable v path p s' where
  place := (hk.place path).trans h.place
  append s'' content hk' := h.append s'' content ((hk.trans hk').mono (Set.union_self _).subset)

/-- The operations of a host do what they say and nothing else that is seen. -/
structure Lawful {σ P : Type} (host : Host (StateM σ)) (v : View σ P) : Prop where
  input : ∀ s, v.Kept ∅ s (host.input s).2
  read : ∀ path s, v.Kept ∅ s (host.read path s).2
  write : ∀ path content s,
    v.Changed path (fun _ => content) s (host.write path content s).1 (host.write path content s).2
  append : ∀ path content s,
    v.Changed path (fun old => old.getD .empty ++ content) s (host.append path content s).1
      (host.append path content s).2
  print : ∀ text s, v.Printed text s (host.print text s).1 (host.print text s).2
  complain : ∀ text s, v.Kept ∅ s (host.complain text s).2

/-- What is appended to a file comes behind what it holds. -/
theorem Openable.append_bytes {σ P : Type} {host : Host (StateM σ)} {v : View σ P} {path : Text}
    {p : P} {s : σ} (h : host.Openable v path p s) (law : host.Lawful v) (content : ByteArray) :
    v.bytes (host.append path content s).2 p = v.bytes s p ++ content ∧
      v.Kept {p} s (host.append path content s).2 := by
  have hc := law.append path content s
  rw [h.append s content .refl] at hc
  cases hc with
  | done hp hc hk =>
    obtain rfl := Option.some.inj (h.place.symm.trans hp)
    exact ⟨congrArg (·.getD .empty) hc, hk⟩

end Host

namespace Session

/-- What is seen of a session. -/
def view : View Session (List Text) where
  output := Session.output
  place? := fun s path => (s.files.target path).toOption
  content? := fun s place => s.files.fileAt? place

/-- A file put where a path leads is seen there and nowhere else. -/
theorem put_kept (s : Session) {place : List Text} (content : ByteArray)
    (h : s.files.node? place ≠ some .directory) :
    view.Kept {place} s { s with files := s.files.put place content } where
  place path := Files.target_put content h path
  content _ hp := Files.fileAt?_put content hp
  output := rfl

/-- An operation that puts a file where a path leads, and fails where it leads nowhere, changes the
file at the path. -/
theorem commit_changed (s : Session) (path : Text) (change : Option ByteArray → ByteArray)
    (r : Except FileFault Files)
    (h : r = (s.files.target path).map fun place =>
      s.files.put place (change (s.files.fileAt? place))) :
    view.Changed path change s (s.commit r).1 (s.commit r).2 := by
  cases ht : s.files.target path with
  | error fault =>
    rw [ht] at h
    subst h
    exact .failed .refl
  | ok place =>
    rw [ht] at h
    subst h
    have hp : (s.files.target path).toOption = some place := by rw [ht]; rfl
    have hd := (Files.target_eq_some_iff.mp hp).2.1
    exact .done hp (Files.fileAt?_put_self _ (Files.ne_nil_of_not_directory hd)) (s.put_kept _ hd)

theorem print_printed (s : Session) (text : Text) :
    view.Printed text s (s.print text).1 (s.print text).2 := by
  unfold print
  split
  · exact .failed List.nil_prefix (List.append_nil _).symm View.Kept.refl.toFilesBut
  · exact .done rfl ⟨fun _ => rfl, fun _ _ => rfl⟩

/-- An operation on the files of a session either succeeds or fails without effect. -/
theorem lawful : host.Lawful view where
  input _ := .refl
  read _ _ := .refl
  write path content s := s.commit_changed path _ _ rfl
  append path content s := by
    apply s.commit_changed path (fun old => old.getD .empty ++ content)
    simp only [Files.append, ← Files.contentAt_eq_getD]
    rfl
  print text s := s.print_printed text
  complain _ _ := ⟨⟨fun _ => rfl, fun _ _ => rfl⟩, rfl⟩

/-- In an empty working directory every plain name leads to a place of its own. -/
theorem place?_of_emptyDirectory {s : Session} {home : List Text} {name : Text}
    (hs : s.files = .emptyDirectory home) (hn : Files.Plain name) :
    view.place? s name = some (home ++ [name]) := by
  change (s.files.target name).toOption = _
  rw [hs]
  refine Files.target_of_plain hn ?_ ?_
  · rw [Files.node?_emptyDirectory]
    exact if_pos (List.prefix_refl home)
  · have hp : ¬ home ++ [name] <+: home := by
      intro h
      have hl := h.length_le
      rw [List.length_append] at hl
      exact Nat.not_succ_le_self _ hl
    change (Files.emptyDirectory home).node? (home ++ [name]) ≠ _
    rw [Files.node?_emptyDirectory, if_neg hp]
    exact nofun

/-- A path that leads to a place can be appended to. -/
theorem openable_of_place? {s : Session} {path : Text} {place : List Text}
    (h : view.place? s path = some place) : host.Openable view path place s where
  place := h
  append s' content hk := by
    have hp := (hk.place path).trans h
    cases ht : s'.files.target path with
    | error fault => simp [view, ht, Except.toOption] at hp
    | ok q =>
      simp only [host, Files.append, ht]
      rfl

/-- A path that leads to a place can be written. -/
theorem write_of_place? {s : Session} {path : Text} {place : List Text}
    (h : view.place? s path = some place) (content : ByteArray) :
    (host.write path content s).1 = .ok () := by
  cases ht : s.files.target path with
  | error fault => simp [view, ht, Except.toOption] at h
  | ok q =>
    simp only [host, Files.write, ht]
    rfl

end Session

end StyleObject
