import StyleObject.Files.Basic

/-!
# Hosts

A host is what a program runs on: standard input and output, and files. A session is a host that is
a value, so that a run on it is a function from sessions to sessions.
-/
namespace StyleObject

structure Host (m : Type → Type) where
  /-- All of standard input. -/
  input : m (Except FileFault ByteArray)
  /-- The content of the file at a path. -/
  read : Text → m (Except FileFault ByteArray)
  /-- Replaces the file at a path. -/
  write : Text → ByteArray → m (Except FileFault Unit)
  /-- Adds to the end of the file at a path. -/
  append : Text → ByteArray → m (Except FileFault Unit)
  /-- Writes to standard output. -/
  print : Text → m (Except FileFault Unit)
  /-- Writes to standard error. -/
  complain : Text → m Unit

structure Session where
  files : Files := {}
  input : ByteArray := .empty
  output : Text := []
  /-- Why nothing can be written to standard output, if that is so. -/
  outputFault : Option FileFault := none
  errors : Text := []

namespace Session

/-- The session after an operation on its files, which is the session before it if that failed. -/
def commit (s : Session) : Except FileFault Files → Except FileFault Unit × Session
  | .ok files => (.ok (), { s with files := files })
  | .error fault => (.error fault, s)

/-- Writes to standard output, unless nothing can be written there. -/
def print (s : Session) (text : Text) : Except FileFault Unit × Session :=
  match s.outputFault with
  | some fault => (.error fault, s)
  | none => (.ok (), { s with output := s.output ++ text })

/-- The host whose state is a session. -/
def host : Host (StateM Session) where
  input := fun s => (.ok s.input, s)
  read := fun path s => (s.files.read path, s)
  write := fun path content s => s.commit (s.files.write path content)
  append := fun path content s => s.commit (s.files.append path content)
  print := fun text s => s.print text
  complain := fun text s => ((), { s with errors := s.errors ++ text })

end Session

end StyleObject
