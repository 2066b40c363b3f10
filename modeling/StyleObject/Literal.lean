import StyleObject.Numeral
import StyleObject.Text.SingleQuoted

/-!
# Literals

A token of a value becomes a literal of the object: a number, which stands bare, or a string. The
pixel unit and the quotes around a token are not part of its content.
-/
namespace StyleObject

inductive Literal where
  | number (numeral : Text)
  | string (content : Text)
  deriving DecidableEq, Repr

namespace Literal

/-- The token without the unit of pixels at its end. -/
def dropPixels (token : Text) : Text := Text.dropEnd ['p', 'x'] token

/-- The token without a single quote at its start and at its end, and then without a double quote at
its start and at its end. Each is removed where it stands when its turn comes, so one removal can
lay open the next. -/
def unquote (token : Text) : Text :=
  Text.dropEnd ['"'] (Text.dropStart ['"'] (Text.dropEnd ['\x27'] (Text.dropStart ['\x27'] token)))

/-- The content of a token is a number when it is a numeral, and else a string. -/
def ofToken (token : Text) : Literal :=
  let content := unquote (dropPixels token)
  if Numeral.accepts content then .number content else .string content

/-- A number is written bare, and a string between single quotes. -/
def text : Literal → Text
  | .number numeral => numeral
  | .string content => Text.singleQuoted content

end Literal

end StyleObject
