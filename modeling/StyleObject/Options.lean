import StyleObject.Text.Basic

/-!
# Options

What a caller may choose: how a block has to end, what becomes of a repeated key, how deep the
object is indented, and which keys keep the marker of importance.
-/
namespace StyleObject

/-- How a block has to end. -/
inductive Mode where
  /-- A block may stop early, and keeps the declarations before that. -/
  | lenient
  /-- A block ends with its closing brace. -/
  | strict
  deriving DecidableEq, Repr, Inhabited

/-- What becomes of two declarations with one key. -/
inductive Duplicates where
  /-- One entry, at the place of the first and with the value of the last. -/
  | lastWins
  /-- An entry for each. -/
  | keepAll
  deriving DecidableEq, Repr, Inhabited

structure Options where
  mode : Mode := .lenient
  duplicates : Duplicates := .lastWins
  /-- The number of spaces before each line of an entry. It is not bounded here, as the length of a
  text is not; where a text is bounded by `2 ^ 63 - 1` bytes, writing fails at a greater number. -/
  indent : Nat := 2
  /-- The keys that keep the marker of importance, if they are not the usual ones. -/
  important : Option (List Text) := none
  deriving DecidableEq, Repr

namespace Options

/-- The keys that keep the marker of importance unless a caller names others. -/
def usualImportant : List Text := ["margin".toList, "padding".toList]

/-- Whether the values of a key keep the marker of importance. -/
def keepsImportant (options : Options) (key : Text) : Bool :=
  (options.important.getD usualImportant).contains key

end Options

end StyleObject
