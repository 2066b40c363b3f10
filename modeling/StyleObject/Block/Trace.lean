import StyleObject.Block.Scan
import StyleObject.Event

/-!
# The trace of a scan

Every delimiter that moves a scan is an event, after the declaration that it ends, if any. The trace
of a text follows the scan of that text and has no influence on it.
-/
namespace StyleObject.Block

namespace Scan

/-- The events of one character. -/
def eventsOf (s : Scan) (c : Char) : List Event :=
  match s.delimiter? c with
  | none => []
  | some d =>
    match s.phase.next? d with
    | none => []
    | some next =>
      let moved := [Event.moved s.phase next d]
      match d with
      | .semicolon => .declared ⟨s.property.getD [], Text.trim s.buffer⟩ :: moved
      | _ => moved

/-- The events of a text, up to the closing brace or a fault. -/
def trace (s : Scan) : Text → List Event
  | [] => []
  | c :: r =>
    if s.phase = .closed then []
    else s.eventsOf c ++ match s.step c with
      | .ok s' => trace s' r
      | .error _ => []

/-- The event of the text's end: leaving out what is left over. -/
def finishEvents (mode : Mode) (s : Scan) : List Event :=
  match s.finish mode with
  | .ok _ => if s.phase = .closed ∨ s.leftover = [] then [] else [.dropped s.leftover]
  | .error _ => []

end Scan

/-- The events of reading the block that a flat text holds. -/
def trace (mode : Mode) (t : Text) : List Event :=
  Scan.trace {} t ++ match Scan.run {} t with
    | .ok s => s.finishEvents mode
    | .error _ => []

end StyleObject.Block
