import StyleObject.Nesting

/-!
# Shapes of values

The shape of a value is decided by the commas and spaces at the top of its text.
-/
namespace StyleObject

inductive Shape where
  /-- One token. -/
  | single
  /-- Tokens with spaces between them. -/
  | sequence
  /-- Parts with commas between them, at least one of them a single token. -/
  | list
  /-- Parts with commas between them, each of them a sequence. -/
  | listOfSequences
  deriving DecidableEq, Repr

/-- The shape of a text that has no marker of importance. -/
def Shape.ofText (t : Text) : Shape :=
  match Nesting.segments ',' t with
  | first :: second :: rest =>
    if (first :: second :: rest).all (Nesting.occurs ' ') then .listOfSequences else .list
  | _ => if Nesting.occurs ' ' (Text.trim t) then .sequence else .single

end StyleObject
