import StyleObject.Command.Run

/-!
# The program

The command on the standard streams and the files of the machine.
-/
namespace StyleObject

/-- The cause that an error of the system stands for. Its number may come negated. -/
def FileFault.ofError (e : IO.Error) : FileFault :=
  match e with
  | .noFileOrDirectory .. => .missing
  | .inappropriateType _ number _ =>
    if number = 20 ∨ number = 0 - 20 then .notDirectory else .isDirectory
  | _ => .other e.toString.toList

/-- An operation of the system with its error as a cause. -/
def FileFault.catching {α : Type} (operation : IO α) : IO (Except FileFault α) := do
  return (← operation.toBaseIO).mapError ofError

namespace Host

/-- The machine that the program runs on. -/
def machine : Host IO where
  input := FileFault.catching do (← IO.getStdin).readBinToEnd
  read := fun path => FileFault.catching (IO.FS.readBinFile (String.ofList path))
  write := fun path content =>
    FileFault.catching (IO.FS.writeBinFile (String.ofList path) content)
  append := fun path content => FileFault.catching do
    (← IO.FS.Handle.mk (String.ofList path) .append).write content
  print := fun text => FileFault.catching do
    let out ← IO.getStdout
    out.putStr (String.ofList text)
    out.flush
  complain := fun text => do (← IO.getStderr).putStr (String.ofList text)

end Host

end StyleObject

def main (words : List String) : IO UInt32 := do
  let exit ← StyleObject.Command.run StyleObject.Host.machine (words.map String.toList)
  return UInt32.ofNat exit.code
