import StyleObject.Literal
import StyleObject.Nesting

/-!
# Parts of values

The commas at the top of a value divide it into parts, and the spaces at the top of a part divide
it into tokens. A part of several tokens is written as an array, and so is a part that carries the
marker of importance, which becomes its last element.
-/
namespace StyleObject

/-- Joins texts with a comma and a space between them. -/
def commaSeparated (items : List Text) : Text := [',', ' '].intercalate items

/-- The array of the items, on one line. -/
def inlineArray (items : List Text) : Text := '[' :: (commaSeparated items ++ [']'])

/-- The array of the items, each on a line of its own. -/
def lineArray (items : List Text) : Text :=
  ['[', '\n'] ++ [',', '\n'].intercalate items ++ ['\n', ']']

/-- The marker of importance at the end of a value. -/
def importantMarker : Text := "!important".toList

/-- The key whose parts are names, in which spaces do not separate tokens. -/
def fontFamily : Text := "fontFamily".toList

structure Part where
  literals : List Literal
  important : Bool := false
  deriving DecidableEq, Repr

namespace Part

/-- The tokens of a part. A part with nothing in it is one empty token. -/
def tokens (key t : Text) : List Text :=
  if key = fontFamily then [Text.squeeze t]
  else match Nesting.segments ' ' (Text.squeeze t) with
    | [] => [[]]
    | first :: rest => first :: rest

/-- The part of a value of `key` that is written `t`. -/
def ofText (key t : Text) : Part where
  literals := (tokens key t).map Literal.ofToken

def isArray (p : Part) : Bool := p.important || 1 < p.literals.length

/-- The elements of a part as they are written. -/
def items (p : Part) : List Text :=
  p.literals.map Literal.text ++ if p.important then [Text.singleQuoted importantMarker] else []

def text (p : Part) : Text := if p.isArray then inlineArray p.items else commaSeparated p.items

/-- The parts of the text of a value. A value with nothing in it is one empty part. -/
def ofValue (key body : Text) : List Part :=
  match Nesting.segments ',' body with
  | [] => [ofText key []]
  | first :: rest => (first :: rest).map (ofText key)

/-- The marker of importance belongs to the last part. -/
def markLast : List Part → List Part
  | [] => []
  | [p] => [{ p with important := true }]
  | p :: q :: ps => p :: markLast (q :: ps)

/-- A single part stands for itself. Several parts are an array, on lines of their own when one of
them is an array. -/
def render : List Part → Text
  | [] => []
  | [p] => p.text
  | p :: q :: ps =>
    let texts := (p :: q :: ps).map text
    if (p :: q :: ps).any isArray then lineArray texts else inlineArray texts

theorem tokens_ne_nil (key t : Text) : tokens key t ≠ [] := by
  unfold tokens
  split
  · simp
  · split <;> simp

theorem ofValue_ne_nil (key body : Text) : ofValue key body ≠ [] := by
  unfold ofValue
  split <;> simp

end Part

end StyleObject
