import StyleObject.Text.SingleQuoted
import StyleObject.Unicode.Case
import StyleObject.Unicode.Number

/-!
# Keys

The key of a property in the object is its camel-case name, if that is an identifier. The name of a
vendor or custom property, which starts with a hyphen, is kept as a quoted key, and so is a name
whose camel case is no identifier.
-/
namespace StyleObject.Key

/-- A word with its first character in upper case. -/
def capitalize : Text → Text
  | [] => []
  | c :: r => Unicode.upper c ++ r

/-- A word with its first character in lower case. -/
def uncapitalize : Text → Text
  | [] => []
  | c :: r => Unicode.lower c ++ r

/-- Joins the words of a list, of which all but the first are capitalized. -/
def joinWords : List Text → Text
  | [] => []
  | first :: rest => first ++ rest.flatMap capitalize

/-- The words between the hyphens of a name, joined with humps in place of the hyphens. -/
def camel (name : Text) : Text := uncapitalize (joinWords (name.splitOn '-'))

def isIdentifierStart (c : Char) : Bool := Unicode.isAlphabetic c || c == '_' || c == '$'

def isIdentifierPart (c : Char) : Bool := Unicode.isAlphanumeric c || c == '_' || c == '$'

/-- Whether a text can stand as a key without quotes. -/
def isIdentifier : Text → Bool
  | [] => false
  | c :: r => isIdentifierStart c && r.all isIdentifierPart

/-- The key of the property with the given name. -/
def ofName (name : Text) : Text :=
  if name.head? = some '-' then Text.singleQuoted name
  else if isIdentifier (camel name) then camel name
  else Text.singleQuoted name

theorem isIdentifierPart_of_start {c : Char} (h : isIdentifierStart c = true) :
    isIdentifierPart c = true := by
  simp only [isIdentifierStart, isIdentifierPart, Unicode.isAlphanumeric, Bool.or_eq_true] at h ⊢
  rcases h with (h | h) | h <;> simp [h]

end StyleObject.Key
