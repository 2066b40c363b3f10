import StyleObject.Files.Basic

/-!
# Where paths lead

A path is walked through directories only, and the files in them do not matter on the way. So a file
put where a path leads diverts no path, and a plain name leads from the working directory to the
place below it.
-/
namespace StyleObject.Files

variable {files : Files} {place : List Text} {name : Text}

theorem ne_nil_of_not_directory (h : files.node? place ≠ some .directory) : place ≠ [] := by
  rintro rfl
  exact h rfl

/-- A file put where there is no directory leaves all directories as they are. -/
theorem node?_put_directory_iff (content : ByteArray)
    (h : files.node? place ≠ some .directory) (other : List Text) :
    (files.put place content).node? other = some .directory ↔
      files.node? other = some .directory := by
  by_cases ho : other = place
  · subst ho
    simp [node?_put_self content (ne_nil_of_not_directory h), h]
  · rw [node?_put content ho]

/-- A walk goes on from a directory only. -/
theorem walk_cons_eq_some_iff {start last rest : List Text} :
    (files.walk start (name :: rest)).toOption = some last ↔
      files.node? start = some .directory ∧
        (files.walk (follow start name) rest).toOption = some last := by
  rw [walk]
  cases files.node? start with
  | none => simp [Except.toOption]
  | some node => cases node <;> simp [Except.toOption]

/-- A file put where there is no directory stops the same walks as before, if not for the same
cause. -/
theorem walk_put (content : ByteArray) (h : files.node? place ≠ some .directory)
    (names start : List Text) :
    ((files.put place content).walk start names).toOption = (files.walk start names).toOption := by
  apply Option.ext
  intro last
  induction names generalizing start with
  | nil => rfl
  | cons name rest ih =>
    rw [walk_cons_eq_some_iff, walk_cons_eq_some_iff, node?_put_directory_iff content h, ih]

/-- A path leads to the place where its walk ends if that is not a directory and the path does not
ask for one. -/
theorem target_eq_some_iff {path : Text} :
    (files.target path).toOption = some place ↔
      path.getLast? ≠ some '/' ∧ files.node? place ≠ some .directory ∧
        ∃ start, files.origin path = .ok start ∧
          (files.walk start (namesToLast path)).toOption = some place := by
  cases ho : files.origin path with
  | error fault => simp [target, ho, Bind.bind, Except.bind, Except.toOption]
  | ok start =>
    cases hw : files.walk start (namesToLast path) with
    | error fault => simp [target, ho, hw, Bind.bind, Except.bind, Except.toOption]
    | ok last =>
      by_cases hl : path.getLast? = some '/'
      · simp [target, ho, hw, hl, Bind.bind, Except.bind, Except.toOption]
      · have e : (files.target path).toOption = some place ↔
            files.node? last ≠ some .directory ∧ last = place := by
          cases hn : files.node? last with
          | none => simp [target, ho, hw, hl, hn, Bind.bind, Except.bind, Except.toOption]
          | some node =>
            cases node <;> simp [target, ho, hw, hl, hn, Bind.bind, Except.bind, Except.toOption]
        grind [Except.toOption]

/-- A file put where there is no directory diverts no path. -/
theorem target_put (content : ByteArray) (h : files.node? place ≠ some .directory)
    (path : Text) :
    ((files.put place content).target path).toOption = (files.target path).toOption := by
  apply Option.ext
  intro last
  have ho : (files.put place content).origin path = files.origin path := rfl
  simp only [target_eq_some_iff, node?_put_directory_iff content h, walk_put content h, ho,
    ne_eq]

/-- A name for a file in the working directory. -/
structure Plain (name : Text) : Prop where
  slash : '/' ∉ name
  /-- It does not stay where it is, nor does it lead up. -/
  moves : name ∉ [[], ['.'], ['.', '.']]

theorem Plain.ne_nil (h : Plain name) : name ≠ [] := by
  rintro rfl
  exact h.moves List.mem_cons_self

theorem Plain.follow (h : Plain name) (place : List Text) :
    Files.follow place name = place ++ [name] := by
  have hm := h.moves
  simp only [List.mem_cons, List.not_mem_nil, or_false, not_or] at hm
  rw [Files.follow, if_neg (not_or.mpr ⟨hm.1, hm.2.1⟩), if_neg hm.2.2]

theorem Plain.namesToLast (h : Plain name) : Files.namesToLast name = [name] := by
  have hs := List.splitOn_intercalate '/' (List.forall_mem_singleton.mpr h.slash)
    (List.cons_ne_nil name [])
  rw [List.intercalate_singleton] at hs
  simp [Files.namesToLast, names, hs, h.ne_nil]

/-- A plain name leads from the working directory to the place below it. -/
theorem target_of_plain (hn : Plain name) (hd : files.node? files.home = some .directory)
    (hf : files.node? (files.home ++ [name]) ≠ some .directory) :
    (files.target name).toOption = some (files.home ++ [name]) := by
  obtain ⟨c, r, rfl⟩ := List.exists_cons_of_ne_nil hn.ne_nil
  have hc : c ≠ '/' := fun h => hn.slash (h ▸ List.mem_cons_self)
  refine target_eq_some_iff.mpr ⟨fun h => hn.slash (List.mem_of_getLast? h), hf, files.home, ?_, ?_⟩
  · rw [origin, if_neg hc]
  · rw [hn.namesToLast, walk_cons_eq_some_iff, hn.follow]
    exact ⟨hd, rfl⟩

theorem getElem?_foldl_insert (places : List (List Text))
    (nodes : Std.HashMap (List Text) Node) (place : List Text) :
    (places.foldl (·.insert · .directory) nodes)[place]? =
      if place ∈ places then some .directory else nodes[place]? := by
  induction places generalizing nodes with
  | nil => rfl
  | cons p ps ih =>
    rw [List.foldl_cons, ih, Std.HashMap.getElem?_insert]
    by_cases hp : p = place
    · subst hp
      simp
    · simp [hp, Ne.symm hp]

/-- The places above a place are its proper beginnings. -/
theorem mem_map_take_iff {other : List Text} :
    other ∈ (List.range place.length).map place.take ↔ other <+: place ∧ other ≠ place := by
  simp only [List.mem_map, List.mem_range]
  constructor
  · rintro ⟨i, hi, rfl⟩
    refine ⟨List.take_prefix i place, fun he => ?_⟩
    have hl := congrArg List.length he
    rw [List.length_take] at hl
    omega
  · rintro ⟨hp, hn⟩
    have hl : other.length ≠ place.length := fun hl => hn (hp.eq_of_length hl)
    exact ⟨other.length, Nat.lt_of_le_of_ne hp.length_le hl, (List.prefix_iff_eq_take.mp hp).symm⟩

/-- A node that is mounted is at its place, and all places above it are directories. -/
theorem node?_mount (files : Files) (place : List Text) (node : Node) {other : List Text}
    (h : other ≠ []) : (files.mount place node).node? other =
      if other = place then some node
      else if other <+: place then some .directory else files.node? other := by
  obtain ⟨n, ns, rfl⟩ := List.exists_cons_of_ne_nil h
  simp only [node?, mount, Std.HashMap.getElem?_insert, getElem?_foldl_insert, mem_map_take_iff,
    beq_iff_eq]
  by_cases he : n :: ns = place
  · simp [he]
  · simp [he, Ne.symm he]

/-- An empty working directory is there, with what is above it and nothing else. -/
theorem node?_emptyDirectory (home place : List Text) :
    (emptyDirectory home).node? place = if place <+: home then some .directory else none := by
  cases place with
  | nil => rw [if_pos List.nil_prefix, node?]
  | cons n ns =>
    have hm := node?_mount {} home .directory (List.cons_ne_nil n ns)
    have he : ({} : Files).node? (n :: ns) = none := Std.HashMap.getElem?_empty
    rw [he] at hm
    change (({} : Files).mount home .directory).node? (n :: ns) = _
    rw [hm]
    by_cases hp : n :: ns = home <;> simp [hp]

/-- The file at a place, if one is there. -/
def fileAt? (files : Files) (place : List Text) : Option ByteArray :=
  match files.node? place with
  | some (.file content) => some content
  | _ => none

theorem fileAt?_put_self (content : ByteArray) (h : place ≠ []) :
    (files.put place content).fileAt? place = some content := by
  simp [fileAt?, node?_put_self content h]

theorem fileAt?_put {other : List Text} (content : ByteArray) (h : other ≠ place) :
    (files.put place content).fileAt? other = files.fileAt? other := by
  simp only [fileAt?, node?_put content h]

theorem contentAt_eq_getD (files : Files) (place : List Text) :
    files.contentAt place = (files.fileAt? place).getD .empty := by
  rw [contentAt, fileAt?]
  cases files.node? place with
  | none => rfl
  | some node => cases node <;> rfl

end StyleObject.Files
