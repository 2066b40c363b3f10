import StyleObject.Proofs.Key.Collision
import StyleObject.Proofs.Object.Grammar
import StyleObject.Proofs.Text.Join

/-!
# Standard names

The names of the style sheet language are words of small letters and digits with a hyphen between
them. Each hyphen becomes a hump of the key and nothing else does, so the name can be read off the
key, and no two of these names have one key.
-/
namespace StyleObject.Key

open Text

/-- A letter from a to z, or a digit. -/
def isStandardPart (c : Char) : Bool := c.isLower || c.isDigit

/-- A word of such letters and digits that starts with a letter. -/
def isStandardWord : Text → Bool
  | [] => false
  | c :: r => c.isLower && r.all isStandardPart

/-- A name of one or more such words, with a hyphen between them. -/
def IsStandard (name : Text) : Prop :=
  ∃ ws : List Text, ws ≠ [] ∧ (∀ w ∈ ws, isStandardWord w = true) ∧ name = ['-'].intercalate ws

/-- The text with a hyphen and a small letter in place of each capital letter. -/
def hyphenate (key : Text) : Text :=
  key.flatMap fun c => if c.isUpper then ['-', c.toLower] else [c]

section Letters

variable {c : Char}

/-- The small letters. -/
def letters : List Char := (List.range' 97 26).map Char.ofNat

theorem isLower_iff_toNat : c.isLower = true ↔ 'a'.toNat ≤ c.toNat ∧ c.toNat ≤ 'z'.toNat := by
  have h : c.isLower = (decide ('a'.toNat ≤ c.toNat) && decide (c.toNat ≤ 'z'.toNat)) := rfl
  rw [h, Bool.and_eq_true, decide_eq_true_iff, decide_eq_true_iff]

theorem isUpper_iff_toNat : c.isUpper = true ↔ 'A'.toNat ≤ c.toNat ∧ c.toNat ≤ 'Z'.toNat :=
  decide_eq_true_iff

theorem mem_letters (h : c.isLower = true) : c ∈ letters := by
  obtain ⟨hl, hu⟩ := isLower_iff_toNat.1 h
  exact List.mem_map.2 ⟨c.toNat, List.mem_range'_1.2 ⟨hl, Nat.lt_succ_of_le hu⟩,
    Char.ofNat_toNat c⟩

/-- What the letters have, one by one, a small letter has. -/
theorem of_letters {p : Char → Bool} (hp : letters.all p = true) (h : c.isLower = true) :
    p c = true := List.all_eq_true.1 hp c (mem_letters h)

theorem lower_of_isLower (h : c.isLower = true) : Unicode.lower c = [c] := by
  simpa using of_letters (p := fun c => Unicode.lower c == [c]) (by decide) h

theorem upper_of_isLower (h : c.isLower = true) : Unicode.upper c = [c.toUpper] := by
  simpa using of_letters (p := fun c => Unicode.upper c == [c.toUpper]) (by decide) h

theorem isIdentifierStart_of_isLower (h : c.isLower = true) : isIdentifierStart c = true :=
  of_letters (by decide) h

theorem isIdentifierPart_toUpper (h : c.isLower = true) : isIdentifierPart c.toUpper = true :=
  of_letters (p := fun c => isIdentifierPart c.toUpper) (by decide) h

/-- A capital letter is that of one small letter. -/
theorem toUpper_of_isLower (h : c.isLower = true) :
    c.toUpper.isUpper = true ∧ c.toUpper.toLower = c := by
  simpa using of_letters (p := fun c => c.toUpper.isUpper && c.toUpper.toLower == c) (by decide) h

theorem isNumber_of_isDigit (h : c.isDigit = true) : Unicode.isNumber c = true := by
  have hl : ¬ c.toNat < 0x30 := Nat.not_lt.2 (Char.isDigit_iff_toNat.1 h).1
  have hu : c.toNat ≤ 0x39 := (Char.isDigit_iff_toNat.1 h).2
  rw [Unicode.isNumber, Unicode.numberRanges, Unicode.covers_cons, if_neg hl]
  simp [hu]

theorem isIdentifierPart_of_isStandardPart (h : isStandardPart c = true) :
    isIdentifierPart c = true := by
  rcases Bool.or_eq_true_iff.1 h with h | h
  · exact isIdentifierPart_of_start (isIdentifierStart_of_isLower h)
  · simp [isIdentifierPart, Unicode.isAlphanumeric, isNumber_of_isDigit h]

theorem not_isUpper_of_isStandardPart (h : isStandardPart c = true) : ¬ c.isUpper = true := by
  rw [isStandardPart, Bool.or_eq_true, isLower_iff_toNat, Char.isDigit_iff_toNat] at h
  rw [isUpper_iff_toNat]
  simp only [Char.reduceToNat] at h ⊢
  omega

end Letters

section Words

variable {w : Text} {ws : List Text} {name : Text}

theorem isStandardWord_iff : isStandardWord w = true ↔
    ∃ c r, w = c :: r ∧ c.isLower = true ∧ ∀ x ∈ r, isStandardPart x = true := by
  cases w with
  | nil => simp [isStandardWord]
  | cons c r => simp [isStandardWord]

theorem isStandardPart_of_mem (h : isStandardWord w = true) {c : Char} (hc : c ∈ w) :
    isStandardPart c = true := by
  obtain ⟨d, r, rfl, hd, hr⟩ := isStandardWord_iff.1 h
  rcases List.mem_cons.1 hc with rfl | hc
  · simp [isStandardPart, hd]
  · exact hr c hc

theorem hyphen_notMem (h : isStandardWord w = true) : '-' ∉ w := fun hm =>
  absurd (isStandardPart_of_mem h hm) (by decide)

/-- A name is standard if the words between its hyphens are. -/
theorem isStandard_iff : IsStandard name ↔ ∀ w ∈ name.splitOn '-', isStandardWord w = true := by
  constructor
  · rintro ⟨ws, hn, hw, rfl⟩
    rwa [List.splitOn_intercalate '-' (fun w h => hyphen_notMem (hw w h)) hn]
  · intro h
    exact ⟨name.splitOn '-', List.splitOn_ne_nil '-' name, h, (List.intercalate_splitOn '-').symm⟩

instance : DecidablePred IsStandard := fun _ => decidable_of_iff _ isStandard_iff.symm

/-- A standard name has a first word. -/
theorem exists_words (h : IsStandard name) : ∃ w ws, isStandardWord w = true ∧
    (∀ v ∈ ws, isStandardWord v = true) ∧ name = ['-'].intercalate (w :: ws) := by
  obtain ⟨ws, hn, hws, rfl⟩ := h
  obtain ⟨w, vs, rfl⟩ := List.exists_cons_of_ne_nil hn
  obtain ⟨hw, hvs⟩ := List.forall_mem_cons.1 hws
  exact ⟨w, vs, hw, hvs, rfl⟩

theorem hyphenate_append (s t : Text) : hyphenate (s ++ t) = hyphenate s ++ hyphenate t :=
  List.flatMap_append

/-- A text of small letters and digits has no humps. -/
theorem hyphenate_of_forall {t : Text} (h : ∀ c ∈ t, isStandardPart c = true) :
    hyphenate t = t := by
  induction t with
  | nil => rfl
  | cons c r ih =>
    obtain ⟨hc, hr⟩ := List.forall_mem_cons.1 h
    rw [← List.singleton_append, hyphenate_append, ih hr]
    simp [hyphenate, not_isUpper_of_isStandardPart hc]

theorem hyphenate_capitalize (h : isStandardWord w = true) :
    hyphenate (capitalize w) = '-' :: w := by
  obtain ⟨c, r, rfl, hc, hr⟩ := isStandardWord_iff.1 h
  obtain ⟨hu, hl⟩ := toUpper_of_isLower hc
  rw [capitalize, upper_of_isLower hc, hyphenate_append, hyphenate_of_forall hr]
  simp [hyphenate, hu, hl]

/-- The camel case of standard words is the first of them and the others with a hump. -/
theorem camel_intercalate (hw : isStandardWord w = true) (hws : ∀ v ∈ ws, isStandardWord v = true) :
    camel (['-'].intercalate (w :: ws)) = w ++ ws.flatMap capitalize := by
  have hs : ∀ v ∈ w :: ws, '-' ∉ v :=
    List.forall_mem_cons.2 ⟨hyphen_notMem hw, fun v hv => hyphen_notMem (hws v hv)⟩
  rw [camel, List.splitOn_intercalate '-' hs (List.cons_ne_nil w ws), joinWords]
  obtain ⟨c, r, rfl, hc, -⟩ := isStandardWord_iff.1 hw
  rw [List.cons_append, uncapitalize, lower_of_isLower hc]
  rfl

theorem hyphenate_humps (hws : ∀ v ∈ ws, isStandardWord v = true) :
    hyphenate (ws.flatMap capitalize) = ws.flatMap (['-'] ++ ·) := by
  rw [hyphenate, List.flatMap_assoc]
  exact List.flatMap_congr fun v hv => hyphenate_capitalize (hws v hv)

theorem isIdentifierPart_humps (hws : ∀ v ∈ ws, isStandardWord v = true) :
    ∀ c ∈ ws.flatMap capitalize, isIdentifierPart c = true := by
  intro x hx
  obtain ⟨v, hv, hx⟩ := List.mem_flatMap.1 hx
  obtain ⟨c, r, rfl, hc, hr⟩ := isStandardWord_iff.1 (hws v hv)
  rw [capitalize, upper_of_isLower hc, List.mem_append, List.mem_singleton] at hx
  rcases hx with rfl | hx
  · exact isIdentifierPart_toUpper hc
  · exact isIdentifierPart_of_isStandardPart (hr x hx)

theorem isIdentifier_camel (h : IsStandard name) : isIdentifier (camel name) = true := by
  obtain ⟨w, ws, hw, hws, rfl⟩ := exists_words h
  rw [camel_intercalate hw hws]
  obtain ⟨c, r, rfl, hc, hr⟩ := isStandardWord_iff.1 hw
  have hp : ∀ x ∈ r ++ ws.flatMap capitalize, isIdentifierPart x = true :=
    List.forall_mem_append.2
      ⟨fun x hx => isIdentifierPart_of_isStandardPart (hr x hx), isIdentifierPart_humps hws⟩
  rw [List.cons_append, isIdentifier, isIdentifierStart_of_isLower hc, Bool.true_and,
    List.all_eq_true]
  exact hp

theorem hyphenate_camel (h : IsStandard name) : hyphenate (camel name) = name := by
  obtain ⟨w, ws, hw, hws, rfl⟩ := exists_words h
  calc hyphenate (camel (['-'].intercalate (w :: ws)))
      = hyphenate w ++ hyphenate (ws.flatMap capitalize) := by
        rw [camel_intercalate hw hws, hyphenate_append]
    _ = w ++ ws.flatMap (['-'] ++ ·) := by
        rw [hyphenate_of_forall fun c => isStandardPart_of_mem hw, hyphenate_humps hws]
    _ = ['-'].intercalate (w :: ws) := (intercalate_cons ['-'] w ws).symm

theorem isBare_of_isStandard (h : IsStandard name) : IsBare name := by
  refine ⟨?_, isIdentifier_camel h⟩
  obtain ⟨w, ws, hw, -, rfl⟩ := exists_words h
  have hm : '-' ∉ w := hyphen_notMem hw
  obtain ⟨c, r, rfl, -, -⟩ := isStandardWord_iff.1 hw
  rw [intercalate_cons, List.cons_append, List.head?_cons, ne_eq, Option.some_inj]
  rintro rfl
  exact hm List.mem_cons_self

theorem ofName_of_isStandard (h : IsStandard name) : ofName name = camel name :=
  ofName_of_isBare (isBare_of_isStandard h)

theorem hyphenate_ofName (h : IsStandard name) : hyphenate (ofName name) = name := by
  rw [ofName_of_isStandard h, hyphenate_camel h]

theorem eq_of_ofName_eq {a b : Text} (ha : IsStandard a) (hb : IsStandard b)
    (h : ofName a = ofName b) : a = b := by
  rw [← hyphenate_ofName ha, ← hyphenate_ofName hb, h]

end Words

section Runs

variable {es : List Entry} {o : Object}

/-- An entry of standard insertions has a standard name. -/
theorem isStandard_of_mem (h : Object.Settled es o) (hes : ∀ e ∈ es, IsStandard e.name)
    {d : Entry} (hd : d ∈ o.entries) : IsStandard d.name := by
  obtain ⟨f, hf, hn⟩ := h.name d hd
  exact hn ▸ hes f (List.mem_of_find?_eq_some hf)

/-- Where all names are standard and the last declaration wins, there is one entry for each name, in
the order in which the names first come. -/
theorem names_of_isStandard (h : Object.Settled es o) (hes : ∀ e ∈ es, IsStandard e.name) :
    o.entries.map Entry.name = (es.map Entry.name).eraseDups := by
  have hns : ∀ a ∈ es.map Entry.name, IsStandard a := by
    intro a ha
    obtain ⟨e, he, rfl⟩ := List.mem_map.1 ha
    exact hes e he
  have hd : ((es.map Entry.name).map ofName).eraseDups =
      (es.map Entry.name).eraseDups.map ofName :=
    eraseDups_map fun a ha b hb => eq_of_ofName_eq (hns a ha) (hns b hb)
  have hr : ∀ a ∈ (es.map Entry.name).eraseDups, hyphenate (ofName a) = a := fun a ha =>
    hyphenate_ofName (hns a (List.mem_eraseDups.1 ha))
  calc o.entries.map Entry.name = o.keys.map hyphenate := by
        rw [Object.keys, List.map_map]
        exact List.map_congr_left fun e he => (hyphenate_ofName (isStandard_of_mem h hes he)).symm
    _ = ((es.map Entry.name).eraseDups.map ofName).map hyphenate := by
        rw [h.keys, ← hd, List.map_map]
        rfl
    _ = (es.map Entry.name).eraseDups := by
        rw [List.map_map]
        exact (List.map_congr_left hr).trans (List.map_id _)

/-- Each of these entries is the last insertion under its name. -/
theorem lastNamed?_of_isStandard (h : Object.Settled es o) (hes : ∀ e ∈ es, IsStandard e.name)
    {d : Entry} (hd : d ∈ o.entries) : Entry.lastNamed? es d.name = some d := by
  have hs : IsStandard d.name := isStandard_of_mem h hes hd
  have hn : Entry.last? es d.key = Entry.lastNamed? es d.name :=
    Entry.last?_eq_lastNamed? fun e he => ⟨eq_of_ofName_eq (hes e he) hs, congrArg ofName⟩
  obtain ⟨l, hl, hv⟩ := h.value d hd
  rw [hn] at hl
  have hname : l.name = d.name := by simpa using List.find?_some hl
  rw [hl]
  cases l
  cases d
  simp_all

/-- Declarations with two standard names have two entries. -/
theorem exists_position_ne (h : Object.Settled es o) {d e : Entry} (hd : d ∈ es) (he : e ∈ es)
    (hds : IsStandard d.name) (hes : IsStandard e.name) (hn : d.name ≠ e.name) :
    ∃ i j, o.position? d.key = some i ∧ o.position? e.key = some j ∧ i ≠ j := by
  obtain ⟨i, hi, hik⟩ := h.exists_position? hd
  obtain ⟨j, hj, hjk⟩ := h.exists_position? he
  refine ⟨i, j, hi, hj, ?_⟩
  rintro rfl
  exact hn (eq_of_ofName_eq hds hes (Option.some.inj (hik.symm.trans hjk)))

end Runs

/-- Nothing of a standard name is lost in its key, which is an identifier without hyphens: with a
hyphen and a small letter for each capital the key is the name again. So two of these names have two
keys, and two entries in every run of insertions of which the last one wins. If all names of a run
are standard, the run leaves one entry for each name, in the order in which they first come, and
this entry is the last declaration of the name. -/
theorem standard_names_lossless :
    (∀ name, IsStandard name → isIdentifier (ofName name) = true ∧ '-' ∉ ofName name ∧
      hyphenate (ofName name) = name) ∧
    (∀ a b, IsStandard a → IsStandard b → a ≠ b → ofName a ≠ ofName b) ∧
    (∀ es : List Entry, ∀ d ∈ es, ∀ e ∈ es, IsStandard d.name → IsStandard e.name →
      d.name ≠ e.name → ∃ i j, ((Object.empty .lastWins).insertAll es).position? d.key = some i ∧
        ((Object.empty .lastWins).insertAll es).position? e.key = some j ∧ i ≠ j) ∧
    ∀ es : List Entry, (∀ e ∈ es, IsStandard e.name) →
      ((Object.empty .lastWins).insertAll es).entries.map Entry.name =
        (es.map Entry.name).eraseDups ∧
      ∀ d ∈ ((Object.empty .lastWins).insertAll es).entries,
        Entry.lastNamed? es d.name = some d := by
  refine ⟨fun name h => ?_, fun a b ha hb => mt (eq_of_ofName_eq ha hb), fun es d hd e he => ?_,
    fun es hes => ?_⟩
  · have hi : isIdentifier (ofName name) = true := by
      rw [ofName_of_isStandard h]
      exact isIdentifier_camel h
    have hh : '-' ∉ ofName name := fun hm =>
      absurd (Grammar.isIdentifierPart_of_mem hi hm) (by decide)
    exact ⟨hi, hh, hyphenate_ofName h⟩
  · exact exists_position_ne (Object.settled_insertAll es) hd he
  · have hs := Object.settled_insertAll es
    exact ⟨names_of_isStandard hs hes, fun d => lastNamed?_of_isStandard hs hes⟩

/-- A repeated name of three words has one entry, apart from that of the name that it starts with. -/
theorem standard_names_lossless_repeated :
    (∀ e ∈ ([⟨"grid-column-gap2".toList, ⟨.single, ['1']⟩⟩, ⟨"grid".toList, ⟨.single, ['2']⟩⟩,
      ⟨"grid-column-gap2".toList, ⟨.single, ['3']⟩⟩] : List Entry), IsStandard e.name) ∧
    hyphenate "gridColumnGap2".toList = "grid-column-gap2".toList ∧
    ((Object.empty .lastWins).insertAll [⟨"grid-column-gap2".toList, ⟨.single, ['1']⟩⟩,
      ⟨"grid".toList, ⟨.single, ['2']⟩⟩,
      ⟨"grid-column-gap2".toList, ⟨.single, ['3']⟩⟩]).entries.map Entry.name =
        ["grid-column-gap2".toList, "grid".toList] := by
  have hs : ∀ e ∈ ([⟨"grid-column-gap2".toList, ⟨.single, ['1']⟩⟩,
      ⟨"grid".toList, ⟨.single, ['2']⟩⟩,
      ⟨"grid-column-gap2".toList, ⟨.single, ['3']⟩⟩] : List Entry), IsStandard e.name := by
    decide
  have hk : ofName "grid-column-gap2".toList = "gridColumnGap2".toList := by decide
  have hn : IsStandard "grid-column-gap2".toList := by decide
  refine ⟨hs, hk ▸ (standard_names_lossless.1 _ hn).2.2, ?_⟩
  exact (standard_names_lossless.2.2.2 _ hs).1

end StyleObject.Key
