import StyleObject.Text.Utf8

/-!
# Faults of files

Why a file could not be read or written.
-/
namespace StyleObject

inductive FileFault where
  | missing
  | isDirectory
  | notDirectory
  /-- The bytes are not UTF-8. -/
  | notText
  /-- Any other cause, in the words of the system. -/
  | other (description : Text)
  deriving DecidableEq, Repr

namespace FileFault

def message : FileFault → Text
  | missing => "No such file or directory (os error 2)".toList
  | isDirectory => "Is a directory (os error 21)".toList
  | notDirectory => "Not a directory (os error 20)".toList
  | notText => "stream did not contain valid UTF-8".toList
  | other description => description

/-- The text of what was read, which may be no text. -/
def textOf (content : Except FileFault ByteArray) : Except FileFault Text :=
  match content with
  | .ok bytes =>
    match Text.decode? bytes with
    | some t => .ok t
    | none => .error .notText
  | .error fault => .error fault

end FileFault

end StyleObject
