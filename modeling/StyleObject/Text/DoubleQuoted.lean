import StyleObject.Text.Basic
import StyleObject.Unicode.Printable

/-!
# Double-quoted texts for messages

A text is shown between double quotes on one line. The double quote, the backslash and four
controls have a short escape; a character that does not show on its own is written by its code
point, in hexadecimal digits between braces.
-/
namespace StyleObject.Text

/-- The code point of `c` as an escape. -/
def codePointEscape (c : Char) : Text :=
  ['\\', 'u', '\x7b'] ++ Nat.toDigits 16 c.toNat ++ ['\x7d']

/-- One character as it stands between double quotes. -/
def shown (c : Char) : Text :=
  match c with
  | '"' => ['\\', '"']
  | '\\' => ['\\', '\\']
  | '\t' => ['\\', 't']
  | '\n' => ['\\', 'n']
  | '\r' => ['\\', 'r']
  | '\x00' => ['\\', '0']
  | _ =>
    if Unicode.isCombining c || !Unicode.isPrintable c then codePointEscape c else [c]

/-- A text between double quotes. -/
def doubleQuoted (t : Text) : Text := '"' :: (t.flatMap shown ++ ['"'])

end StyleObject.Text
