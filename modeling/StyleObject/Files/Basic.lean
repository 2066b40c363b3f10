import Std.Data.HashMap
import StyleObject.Files.Fault

/-!
# Files

A tree of files and directories. A place in it is the list of names that lead there from the root,
and a path leads to a place from the root or from the working directory. Reading and writing either
succeed or leave the tree as it was.
-/
namespace StyleObject

inductive Node where
  | file (content : ByteArray)
  | directory

structure Files where
  /-- What is at each place below the root. -/
  nodes : Std.HashMap (List Text) Node := ∅
  /-- The place of the working directory. -/
  home : List Text := []

namespace Files

/-- What is at a place. The root is a directory. -/
def node? (files : Files) : List Text → Option Node
  | [] => some .directory
  | name :: names => files.nodes[name :: names]?

/-- Where a name leads from a directory. No name, and a dot, stay there; two dots lead up, and from
the root to the root. -/
def follow (place : List Text) (name : Text) : List Text :=
  if name = [] ∨ name = ['.'] then place
  else if name = ['.', '.'] then place.dropLast
  else place ++ [name]

/-- Follows names, each of them from a directory. Nothing needs to be at the place they lead to. -/
def walk (files : Files) (place : List Text) : List Text → Except FileFault (List Text)
  | [] => .ok place
  | name :: rest =>
    match files.node? place with
    | none => .error .missing
    | some (.file _) => .error .notDirectory
    | some .directory => walk files (follow place name) rest

/-- Where a path starts: at the root if it begins with a slash, and else in the working directory.
An empty path leads nowhere. -/
def origin (files : Files) (path : Text) : Except FileFault (List Text) :=
  match path with
  | [] => .error .missing
  | c :: _ => .ok (if c = '/' then [] else files.home)

/-- The names of a path. A slash at its end is followed by an empty name. -/
def names (path : Text) : List Text := path.splitOn '/'

/-- The names of a path up to the last that is not empty. -/
def namesToLast (path : Text) : List Text := ((names path).reverse.dropWhile (·.isEmpty)).reverse

/-- The content of the file at a path. -/
def read (files : Files) (path : Text) : Except FileFault ByteArray := do
  let place ← files.walk (← files.origin path) (names path)
  match files.node? place with
  | none => .error .missing
  | some (.file content) => .ok content
  | some .directory => .error .isDirectory

/-- The place of a path that is to be a file, which is there or can be created. A slash at the end
asks for a directory. -/
def target (files : Files) (path : Text) : Except FileFault (List Text) := do
  let place ← files.walk (← files.origin path) (namesToLast path)
  if path.getLast? = some '/' then .error .isDirectory
  else match files.node? place with
    | some .directory => .error .isDirectory
    | _ => .ok place

/-- The content of the file at a place, which is empty if there is none. -/
def contentAt (files : Files) (place : List Text) : ByteArray :=
  match files.node? place with
  | some (.file content) => content
  | _ => .empty

/-- Puts a file at a place. -/
def put (files : Files) (place : List Text) (content : ByteArray) : Files :=
  { files with nodes := files.nodes.insert place (.file content) }

/-- Replaces the file at a path. -/
def write (files : Files) (path : Text) (content : ByteArray) : Except FileFault Files := do
  let place ← files.target path
  .ok (files.put place content)

/-- Adds to the end of the file at a path. -/
def append (files : Files) (path : Text) (content : ByteArray) : Except FileFault Files := do
  let place ← files.target path
  .ok (files.put place (files.contentAt place ++ content))

/-- Puts a node at a place, below the directories that lead there. -/
def mount (files : Files) (place : List Text) (node : Node) : Files :=
  let above := (List.range place.length).map place.take
  { files with nodes := (above.foldl (·.insert · .directory) files.nodes).insert place node }

/-- An empty working directory, for a run to start in. -/
def emptyDirectory (home : List Text) : Files := { ({} : Files).mount home .directory with home }

/-- Writing changes what is at one place. -/
theorem node?_put {files : Files} {place other : List Text} (content : ByteArray)
    (h : other ≠ place) : (files.put place content).node? other = files.node? other := by
  cases other with
  | nil => rfl
  | cons n ns =>
    simp only [node?, put, Std.HashMap.getElem?_insert, beq_iff_eq]
    rw [if_neg (Ne.symm h)]

theorem node?_put_self {files : Files} {place : List Text} (content : ByteArray)
    (h : place ≠ []) : (files.put place content).node? place = some (.file content) := by
  cases place with
  | nil => exact absurd rfl h
  | cons n ns => simp [node?, put]

end Files

end StyleObject
