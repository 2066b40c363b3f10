import StyleObject.Text.Basic

/-!
# The grammar of a block

Four delimiters give a block its form, and a phase says which of them may come next. A selector and
the opening brace are optional; after them every colon is followed by a semicolon, and the closing
brace stands behind a semicolon.
-/
namespace StyleObject.Block

inductive Delimiter where
  | openBrace
  | colon
  | semicolon
  | closeBrace
  deriving DecidableEq, Repr

namespace Delimiter

def char : Delimiter → Char
  | openBrace => '\x7b'
  | colon => ':'
  | semicolon => ';'
  | closeBrace => '\x7d'

/-- The delimiter that a character is, if it is one. -/
def ofChar? (c : Char) : Option Delimiter :=
  match c with
  | '\x7b' => some openBrace
  | ':' => some colon
  | ';' => some semicolon
  | '\x7d' => some closeBrace
  | _ => none

@[simp] theorem ofChar?_char (d : Delimiter) : ofChar? d.char = some d := by
  cases d <;> rfl

theorem ofChar?_eq_some_iff {c : Char} {d : Delimiter} : ofChar? c = some d ↔ c = d.char := by
  constructor
  · intro h
    unfold ofChar? at h
    split at h <;> cases h <;> rfl
  · rintro rfl
    exact ofChar?_char d

end Delimiter

/-- How much of a block has been read. -/
inductive Phase where
  /-- Nothing but perhaps a selector, or the first property of a list without braces. -/
  | start
  /-- The opening brace. -/
  | opened
  /-- A property and its colon. -/
  | value
  /-- A whole declaration. -/
  | between
  /-- The closing brace. -/
  | closed
  deriving DecidableEq, Repr

namespace Phase

/-- The phase after a delimiter, if the delimiter may stand here. -/
def next? : Phase → Delimiter → Option Phase
  | start, .openBrace => some opened
  | start, .colon => some value
  | opened, .colon => some value
  | between, .colon => some value
  | value, .semicolon => some between
  | between, .closeBrace => some closed
  | _, _ => none

/-- What a block in this phase waits for. -/
def text : Phase → Text
  | start => "awaiting '\x7b' or ':'".toList
  | opened => "awaiting ':'".toList
  | value => "awaiting ';'".toList
  | between => "awaiting ':' or '\x7d'".toList
  | closed => "done".toList

@[simp] theorem next?_closed (d : Delimiter) : closed.next? d = none := by cases d <;> rfl

/-- A semicolon is what ends a value. -/
theorem next?_semicolon {p q : Phase} : p.next? .semicolon = some q ↔ p = value ∧ q = between := by
  cases p <;> simp [next?, eq_comm]

/-- A colon is what begins a value. -/
theorem eq_colon_of_next?_value {p : Phase} {d : Delimiter} (h : p.next? d = some value) :
    d = .colon := by
  cases p <;> cases d <;> simp [next?] at h ⊢

end Phase

end StyleObject.Block
