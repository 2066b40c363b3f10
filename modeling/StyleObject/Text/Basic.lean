/-!
# Texts

A text is the list of its characters, so that every function on it is a recursion on its
characters. This module finds and removes marks, and measures and writes numbers.
-/
namespace StyleObject

abbrev Text := List Char

instance : Hashable Text := @instHashableList Char instHashableChar

namespace Text

/-- The text without `mark` at its start, if it stands there. -/
def dropStart (mark t : Text) : Text := (mark.isPrefixOf? t).getD t

/-- The text without `mark` at its end, if it stands there. -/
def dropEnd (mark t : Text) : Text := (mark.isSuffixOf? t).getD t

/-- The texts before and after the first place where `mark` stands. -/
def cutAt? (mark : Text) : Text → Option (Text × Text)
  | [] => none
  | c :: r =>
    match mark.isPrefixOf? (c :: r) with
    | some rest => some ([], rest)
    | none => (cutAt? mark r).map fun (before, after) => (c :: before, after)

theorem length_of_isPrefixOf? {mark t rest : Text} (h : mark.isPrefixOf? t = some rest) :
    mark.length + rest.length = t.length := by
  induction mark generalizing t with
  | nil =>
    obtain rfl : t = rest := Option.some.inj h
    exact Nat.zero_add _
  | cons m ms ih =>
    cases t with
    | nil => cases h
    | cons c r =>
      have hc : (m :: ms).isPrefixOf? (c :: r) = if m == c then ms.isPrefixOf? r else none := rfl
      rw [hc] at h
      split at h
      · have hr := ih h
        simp only [List.length_cons]
        omega
      · cases h

/-- What a cut leaves is as much shorter than the text as the mark is long. -/
theorem length_of_cutAt? {mark t before after : Text} (h : cutAt? mark t = some (before, after)) :
    before.length + mark.length + after.length = t.length := by
  induction t generalizing before with
  | nil => cases h
  | cons c r ih =>
    unfold cutAt? at h
    split at h
    · next rest hp =>
      obtain ⟨rfl, rfl⟩ := Prod.mk.inj (Option.some.inj h)
      rw [List.length_nil, Nat.zero_add]
      exact length_of_isPrefixOf? hp
    · obtain ⟨⟨b, a⟩, hb, he⟩ := Option.map_eq_some_iff.1 h
      obtain ⟨rfl, rfl⟩ := Prod.mk.inj he
      have hr := ih hb
      simp only [List.length_cons]
      omega

/-- The last text of a list, left out when it is empty. -/
def dropEmptyLast : List Text → List Text
  | [] => []
  | [t] => if t.isEmpty then [] else [t]
  | t :: u :: ts => t :: dropEmptyLast (u :: ts)

/-- The number of bytes of a text in UTF-8. -/
def byteLength : Text → Nat
  | [] => 0
  | c :: r => c.utf8Size + byteLength r

@[simp] theorem byteLength_nil : byteLength [] = 0 := rfl

@[simp] theorem byteLength_cons (c : Char) (t : Text) :
    byteLength (c :: t) = c.utf8Size + byteLength t := rfl

@[simp] theorem byteLength_append (s t : Text) :
    byteLength (s ++ t) = byteLength s + byteLength t := by
  induction s with
  | nil => simp
  | cons c r ih => simp [ih, Nat.add_assoc]

/-- A number in decimal digits. -/
def decimal (n : Nat) : Text := Nat.toDigits 10 n

end Text

end StyleObject
