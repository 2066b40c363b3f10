import StyleObject.Files.Host
import StyleObject.Sheet

/-!
# Style sheet files

The object of a style sheet that is read from a file.
-/
namespace StyleObject

/-- Why a style sheet file has no object. -/
inductive SheetFault where
  | inaccessible (cause : FileFault)
  | malformed (fault : Fault)
  deriving DecidableEq, Repr

def SheetFault.message : SheetFault → Text
  | inaccessible _ => "I/O error reading stylesheet".toList
  | malformed fault => fault.message

namespace Sheet

variable {m : Type → Type} [Monad m]

/-- The text of the file at a path. -/
def readFile (host : Host m) (path : Text) : m (Except FileFault Text) := do
  return FileFault.textOf (← host.read path)

/-- The object of the style sheet at a path, as it is written. -/
def renderFile (host : Host m) (options : Options) (path : Text) :
    m (Except SheetFault Text) := do
  match ← readFile host path with
  | .error cause => return .error (.inaccessible cause)
  | .ok css => return (render options css).mapError .malformed

end Sheet

end StyleObject
