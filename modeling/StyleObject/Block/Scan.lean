import StyleObject.Declaration
import StyleObject.Fault
import StyleObject.Options
import StyleObject.Text.Space

/-!
# Scanning a block

A scan reads the flat text of a block one character at a time. Outside parentheses a delimiter moves
the phase and closes the text collected since the delimiter before it; all other characters are
collected. The scan stops at the closing brace, and the text behind it is not read.
-/
namespace StyleObject.Block

structure Scan where
  phase : Phase := .start
  /-- Opened less closed parentheses. -/
  depth : Int := 0
  /-- The bytes read so far. -/
  offset : Nat := 0
  /-- The text since the last delimiter. -/
  buffer : Text := []
  /-- The property whose value is being read. -/
  property : Option Text := none
  declarations : List Declaration := []
  deriving DecidableEq, Repr

/-- How a character changes the depth. -/
def turn (c : Char) : Int :=
  match c with
  | '(' => 1
  | ')' => -1
  | _ => 0

namespace Scan

/-- The delimiter that `c` is for this scan, which is none inside parentheses. -/
def delimiter? (s : Scan) (c : Char) : Option Delimiter :=
  if s.depth = 0 then Delimiter.ofChar? c else none

/-- Collects a character. -/
def collect (s : Scan) (c : Char) : Scan :=
  { s with
    depth := s.depth + turn c
    offset := s.offset + c.utf8Size
    buffer := s.buffer ++ [c] }

/-- Moves to another phase behind a delimiter. A colon ends a property, a semicolon ends the value
of that property. -/
def move (s : Scan) (d : Delimiter) (next : Phase) : Scan :=
  { phase := next
    depth := s.depth
    offset := s.offset + d.char.utf8Size
    buffer := []
    property := match d with
      | .colon => some (Text.trim s.buffer)
      | .semicolon => none
      | _ => s.property
    declarations := match d with
      | .semicolon => s.declarations ++ [⟨s.property.getD [], Text.trim s.buffer⟩]
      | _ => s.declarations }

/-- Reads one character. -/
def step (s : Scan) (c : Char) : Except Fault Scan :=
  match s.delimiter? c with
  | none => .ok (s.collect c)
  | some d =>
    match s.phase.next? d with
    | some next => .ok (s.move d next)
    | none => .error (.unexpected d s.offset s.phase)

/-- Reads a text up to the closing brace of the block. -/
def run (s : Scan) : Text → Except Fault Scan
  | [] => .ok s
  | c :: r =>
    if s.phase = .closed then .ok s
    else match s.step c with
      | .ok s' => run s' r
      | .error fault => .error fault

/-- The text behind the last delimiter. -/
def leftover (s : Scan) : Text := Text.trim s.buffer

/-- What a scan has found when the text ends. Without the closing brace, text that is left over is
a fault if the mode is strict or no declaration came before it, and the missing brace is a fault if
the mode is strict. -/
def finish (mode : Mode) (s : Scan) : Except Fault (List Declaration) :=
  if s.phase = .closed then .ok s.declarations
  else if s.leftover ≠ [] ∧ (mode = .strict ∨ s.declarations = []) then
    .error (.unterminated s.leftover)
  else match mode with
    | .strict => .error .unclosed
    | .lenient => .ok s.declarations

@[simp] theorem move_phase (s : Scan) (d : Delimiter) (p : Phase) : (s.move d p).phase = p := rfl

@[simp] theorem move_depth (s : Scan) (d : Delimiter) (p : Phase) :
    (s.move d p).depth = s.depth := rfl

@[simp] theorem move_offset (s : Scan) (d : Delimiter) (p : Phase) :
    (s.move d p).offset = s.offset + d.char.utf8Size := rfl

@[simp] theorem move_buffer (s : Scan) (d : Delimiter) (p : Phase) : (s.move d p).buffer = [] := rfl

@[simp] theorem move_colon_property (s : Scan) (p : Phase) :
    (s.move .colon p).property = some (Text.trim s.buffer) := rfl

@[simp] theorem move_semicolon_property (s : Scan) (p : Phase) :
    (s.move .semicolon p).property = none := rfl

@[simp] theorem move_semicolon_declarations (s : Scan) (p : Phase) :
    (s.move .semicolon p).declarations =
      s.declarations ++ [⟨s.property.getD [], Text.trim s.buffer⟩] := rfl

theorem move_declarations {s : Scan} {d : Delimiter} {p : Phase} (h : d ≠ .semicolon) :
    (s.move d p).declarations = s.declarations := by
  cases d <;> first | rfl | contradiction

/-- A step collects its character, or moves behind the delimiter that it is. -/
theorem step_eq_ok {s s' : Scan} {c : Char} : s.step c = .ok s' ↔
    (s.delimiter? c = none ∧ s' = s.collect c) ∨
      ∃ d next, s.delimiter? c = some d ∧ s.phase.next? d = some next ∧ s' = s.move d next := by
  unfold step
  cases hc : s.delimiter? c with
  | none => simp [eq_comm]
  | some d => cases hq : s.phase.next? d <;> simp [hq, eq_comm]

/-- The only fault of a step is a delimiter that may not stand here. -/
theorem step_eq_error {s : Scan} {c : Char} {f : Fault} : s.step c = .error f ↔
    ∃ d, s.delimiter? c = some d ∧ s.phase.next? d = none ∧ f = .unexpected d s.offset s.phase := by
  unfold step
  cases hc : s.delimiter? c with
  | none => simp
  | some d => cases hq : s.phase.next? d <;> simp [hq, eq_comm]

@[simp] theorem run_nil (s : Scan) : s.run [] = .ok s := rfl

theorem run_closed {s : Scan} (h : s.phase = .closed) (t : Text) : s.run t = .ok s := by
  cases t <;> simp [run, h]

/-- Reading goes on where it stopped. -/
theorem run_append (s : Scan) (t u : Text) : s.run (t ++ u) = s.run t >>= (·.run u) := by
  induction t generalizing s with
  | nil => rfl
  | cons c r ih =>
    by_cases h : s.phase = .closed
    · simp only [run_closed h]
      exact (run_closed h u).symm
    · simp only [List.cons_append, run, h, if_false]
      split
      · next s' _ => exact ih s'
      · rfl

end Scan

/-- The declarations of the block that a flat text holds. -/
def read (mode : Mode) (t : Text) : Except Fault (List Declaration) :=
  match Scan.run {} t with
  | .ok s => s.finish mode
  | .error fault => .error fault

end StyleObject.Block
