import StyleObject.Key
import StyleObject.Proofs.Numeral
import StyleObject.Value.Part

/-!
# The grammar of objects

An object is written as a brace, an item for each of its fields on lines of its own, and a closing
brace on the last line. Keys are identifiers or literals; values are numerals, literals, or arrays
of values on one line or on several. Every line feed within the braces is followed by the indent.
-/
namespace StyleObject.Grammar

/-- What stands between the quotes of a literal. A single quote has a backslash before it, nothing
else has one, and there is no line feed. -/
inductive IsBody : Text → Prop where
  | nil : IsBody []
  | char {c : Char} {t : Text} (hq : c ≠ '\x27') (hb : c ≠ '\\') (hl : c ≠ '\n') (h : IsBody t) :
    IsBody (c :: t)
  | quote {t : Text} (h : IsBody t) : IsBody ('\\' :: '\x27' :: t)

/-- A literal in single quotes. -/
inductive IsLiteral : Text → Prop where
  | quoted {body : Text} (h : IsBody body) : IsLiteral ('\x27' :: (body ++ ['\x27']))

inductive IsKey : Text → Prop where
  | identifier {t : Text} (h : Key.isIdentifier t = true) : IsKey t
  | literal {t : Text} (h : IsLiteral t) : IsKey t

inductive IsValue : Text → Prop where
  | numeral {t : Text} (h : IsNumeral t) : IsValue t
  | literal {t : Text} (h : IsLiteral t) : IsValue t
  | inlineArray {ts : List Text} (hn : ts ≠ []) (h : ∀ t ∈ ts, IsValue t) :
    IsValue (inlineArray ts)
  | lineArray {ts : List Text} (hn : ts ≠ []) (h : ∀ t ∈ ts, IsValue t) : IsValue (lineArray ts)

/-- A key and a value as they are written. -/
structure Field where
  key : Text
  value : Text
  deriving DecidableEq, Repr

/-- The text with `n` spaces behind each line feed. -/
def indentLines (n : Nat) (t : Text) : Text :=
  t.flatMap fun c => if c = '\n' then '\n' :: List.replicate n ' ' else [c]

/-- An item without its comma, on a new line. -/
def itemText (n : Nat) (f : Field) : Text :=
  indentLines n ['\n'] ++ f.key ++ [':', ' '] ++ indentLines n f.value

/-- An object with these fields is written, with indent `n`, as the text `t`. -/
structure IsObject (n : Nat) (fs : List Field) (t : Text) : Prop where
  text : t = '\x7b' :: (fs.flatMap fun f => itemText n f ++ [',']) ++ ['\n', '\x7d']
  key : ∀ f ∈ fs, IsKey f.key
  value : ∀ f ∈ fs, IsValue f.value

variable {n : Nat}

@[simp] theorem indentLines_nil : indentLines n [] = [] := rfl

@[simp] theorem indentLines_cons (c : Char) (t : Text) :
    indentLines n (c :: t) =
      (if c = '\n' then '\n' :: List.replicate n ' ' else [c]) ++ indentLines n t := rfl

@[simp] theorem indentLines_append (s t : Text) :
    indentLines n (s ++ t) = indentLines n s ++ indentLines n t := List.flatMap_append

theorem indentLines_of_notMem {t : Text} (h : '\n' ∉ t) : indentLines n t = t := by
  induction t with
  | nil => rfl
  | cons c r ih =>
    rw [List.mem_cons, not_or] at h
    rw [indentLines_cons, if_neg (Ne.symm h.1), ih h.2, List.singleton_append]

theorem notMem_lineFeed_of_isBody {t : Text} (h : IsBody t) : '\n' ∉ t := by
  induction h with
  | nil => simp
  | char _ _ hl _ ih => exact List.not_mem_cons_of_ne_of_not_mem (Ne.symm hl) ih
  | quote _ ih => simpa using ih

theorem isIdentifierPart_of_mem {t : Text} {c : Char} (h : Key.isIdentifier t = true) (hc : c ∈ t) :
    Key.isIdentifierPart c = true := by
  cases t with
  | nil => cases hc
  | cons b r =>
    rw [Key.isIdentifier, Bool.and_eq_true, List.all_eq_true] at h
    rcases List.mem_cons.1 hc with rfl | hc
    · exact Key.isIdentifierPart_of_start h.1
    · exact h.2 c hc

theorem notMem_lineFeed_of_isKey {t : Text} (h : IsKey t) : '\n' ∉ t := by
  cases h with
  | identifier h => exact fun hm => absurd (isIdentifierPart_of_mem h hm) (by decide)
  | literal h =>
    cases h with
    | quoted h => simpa using notMem_lineFeed_of_isBody h

end StyleObject.Grammar
