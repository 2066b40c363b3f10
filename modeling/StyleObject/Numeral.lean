import StyleObject.Text.Basic

/-!
# Numerals

A numeral is an optional sign, one or more of the digits 0 to 9, and optionally a point with one or
more digits behind it.
-/
namespace StyleObject.Numeral

/-- Whether a text is one or more digits. -/
def isDigits (t : Text) : Bool := !t.isEmpty && t.all Char.isDigit

/-- The text without one sign at its start. -/
def dropSign : Text → Text
  | '+' :: r => r
  | '-' :: r => r
  | t => t

/-- Whether a text is a numeral without a sign. -/
def isUnsigned (t : Text) : Bool :=
  isDigits (t.takeWhile Char.isDigit) &&
    match t.dropWhile Char.isDigit with
    | [] => true
    | '.' :: fraction => isDigits fraction
    | _ => false

/-- Whether a text is a numeral. -/
def accepts (t : Text) : Bool := isUnsigned (dropSign t)

end StyleObject.Numeral
