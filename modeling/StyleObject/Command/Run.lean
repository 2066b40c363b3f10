import StyleObject.Command.Arguments
import StyleObject.SheetFile

/-!
# Runs of the command

A run reads the style sheet, appends the events of its conversion to the log, and then delivers the
object to standard output or to a file. It is written for any host.
-/
namespace StyleObject.Command

/-- How a run ends. -/
inductive Exit where
  | done
  | failed
  | misused
  deriving DecidableEq, Repr

def Exit.code : Exit → Nat
  | done => 0
  | failed => 1
  | misused => 2

/-- What a run says when it fails. -/
def complaint (fault : SheetFault) : Text :=
  "css-to-jss: ".toList ++
    (match fault with
      | .inaccessible cause => "I/O error: ".toList ++ cause.message
      | .malformed fault => "could not convert input: ".toList ++ fault.message) ++ ['\n']

namespace Arguments

/-- The path of the style sheet, if it is not standard input. -/
def sheetPath? (a : Arguments) : Option Text := a.input.filter (· ≠ ['-'])

/-- The text to deliver for a style sheet. -/
def result (a : Arguments) (css : Text) : Except Fault Text :=
  if a.fail then Sheet.render a.options css else .ok (Sheet.renderOrEcho a.options css)

/-- Whether an event goes to the log. -/
def logs (a : Arguments) (e : Event) : Bool := a.verbose || e.level == .debug

/-- All that happens in a run between reading a style sheet and delivering its object. -/
def events (a : Arguments) (css : Text) : List Event :=
  .opened (Text.byteLength css) :: Sheet.trace a.options css ++
    if a.fail then [] else Sheet.echoEvents a.options css

/-- The lines of the log. -/
def logLines (a : Arguments) (css : Text) : List Text :=
  ((a.events css).filter a.logs).map Event.line

end Arguments

variable {m : Type → Type} [Monad m]

/-- Reads the style sheet. -/
def readSheet (host : Host m) (a : Arguments) : m (Except FileFault Text) :=
  match a.sheetPath? with
  | some path => Sheet.readFile host path
  | none => do return FileFault.textOf (← host.input)

/-- Appends lines to the log file, one at a time. A line that cannot be written is lost. -/
def log (host : Host m) (a : Arguments) (lines : List Text) : m Unit :=
  match a.logFile with
  | some path => lines.forM fun line => do
    let _ ← host.append path (Text.encode line)
  | none => pure ()

/-- Writes a text and a line feed to the output. -/
def deliver (host : Host m) (a : Arguments) (text : Text) : m (Except FileFault Unit) :=
  match a.output with
  | some path => host.write path (Text.encode (text ++ ['\n']))
  | none => host.print (text ++ ['\n'])

/-- Reads, converts and delivers. -/
def perform (host : Host m) (a : Arguments) : m (Except SheetFault Unit) := do
  match ← readSheet host a with
  | .error cause => return .error (.inaccessible cause)
  | .ok css =>
    log host a (a.logLines css)
    match a.result css with
    | .error fault => return .error (.malformed fault)
    | .ok text => return (← deliver host a text).mapError .inaccessible

/-- Runs the command on the words of its command line. -/
def run (host : Host m) (words : List Text) : m Exit := do
  match Arguments.ofWords words with
  | .error misuse =>
    host.complain ("error: ".toList ++ misuse.message ++ ['\n'])
    return .misused
  | .ok a =>
    match ← perform host a with
    | .ok () => return .done
    | .error fault =>
      host.complain (complaint fault)
      return .failed

end StyleObject.Command
