import StyleObject.Text.Space

/-!
# Nesting in parentheses and quotes

A value is read from left to right with a depth of parentheses and one flag for each of the two
quotes. The depth may fall below zero, and a quote inside the other kind of quote still counts, so
no text is refused. A character is at the top when depth and flags, after it, are as at the start.
-/
namespace StyleObject

structure Nesting where
  /-- The number of opening parentheses less that of closing ones. It is not bounded here; a counter
  of 32 bits holds it in every text of less than `2 ^ 31` characters. -/
  depth : Int := 0
  inSingle : Bool := false
  inDouble : Bool := false
  deriving DecidableEq, Repr

namespace Nesting

/-- The nesting after one more character. -/
def advance (n : Nesting) (c : Char) : Nesting :=
  match c with
  | '(' => { n with depth := n.depth + 1 }
  | ')' => { n with depth := n.depth - 1 }
  | '\x27' => { n with inSingle := !n.inSingle }
  | '"' => { n with inDouble := !n.inDouble }
  | _ => n

def isTop (n : Nesting) : Bool := n.depth == 0 && !n.inSingle && !n.inDouble

/-- The nesting after a text. -/
def after (n : Nesting) (t : Text) : Nesting := t.foldl advance n

@[simp] theorem after_nil (n : Nesting) : n.after [] = n := rfl

@[simp] theorem after_cons (n : Nesting) (c : Char) (t : Text) :
    n.after (c :: t) = (n.advance c).after t := rfl

@[simp] theorem after_append (n : Nesting) (s t : Text) :
    n.after (s ++ t) = (n.after s).after t := List.foldl_append

/-- Whether `c`, read at `n`, is the separator and at the top. -/
def cutsAt (sep : Char) (n : Nesting) (c : Char) : Bool := (n.advance c).isTop && c == sep

/-- The text between the separators at the top, which are left out. -/
def pieces (sep : Char) (n : Nesting) : Text → List Text
  | [] => [[]]
  | c :: r =>
    if cutsAt sep n c then [] :: pieces sep (n.advance c) r
    else (pieces sep (n.advance c) r).modifyHead (c :: ·)

/-- A piece without blanks around it and with a space for each line feed. -/
def tidy (piece : Text) : Text := (Text.trim piece).map fun c => if c = '\n' then ' ' else c

/-- The tidy pieces of a text. A last piece with nothing in it is none. -/
def segments (sep : Char) (t : Text) : List Text :=
  Text.dropEmptyLast ((pieces sep {} t).map tidy)

/-- Whether the separator stands at the top, from `n` on. -/
def occursFrom (sep : Char) (n : Nesting) : Text → Bool
  | [] => false
  | c :: r => cutsAt sep n c || occursFrom sep (n.advance c) r

/-- Whether the separator stands at the top of a text. -/
def occurs (sep : Char) (t : Text) : Bool := occursFrom sep {} t

theorem pieces_ne_nil (sep : Char) (n : Nesting) (t : Text) : pieces sep n t ≠ [] := by
  induction t generalizing n with
  | nil => simp [pieces]
  | cons c r ih =>
    simp only [pieces]
    split
    · simp
    · simpa using ih (n.advance c)

/-- There is more than one piece exactly when the separator stands at the top. -/
theorem one_lt_length_pieces (sep : Char) (n : Nesting) (t : Text) :
    1 < (pieces sep n t).length ↔ occursFrom sep n t = true := by
  induction t generalizing n with
  | nil => simp [pieces, occursFrom]
  | cons c r ih =>
    have hp := List.length_pos_iff.2 (pieces_ne_nil sep (n.advance c) r)
    by_cases h : cutsAt sep n c = true
    · simp [pieces, occursFrom, h]
      omega
    · simp [pieces, occursFrom, h, ih]

end Nesting

end StyleObject
