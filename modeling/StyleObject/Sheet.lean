import StyleObject.Block.Trace
import StyleObject.Object
import StyleObject.Text.Comment

/-!
# Style sheets

A style sheet is flattened to one line, its block is read, and the declarations become the entries
of an object, which is written out. A caller who wants no faults gets a style sheet that is at fault
back as it is.
-/
namespace StyleObject.Sheet

/-- The text without its comments and with single spaces between its words. -/
def flatten (css : Text) : Text := Text.squeeze (Text.dropComments css)

/-- The declarations of a style sheet. -/
def declarations (mode : Mode) (css : Text) : Except Fault (List Declaration) :=
  Block.read mode (flatten css)

/-- The entry that a declaration becomes. -/
def entry (options : Options) (d : Declaration) : Entry :=
  ⟨d.property, Value.ofRaw options (Key.ofName d.property) d.value⟩

/-- The object of a list of declarations. -/
def objectOf (options : Options) (ds : List Declaration) : Object :=
  (Object.empty options.duplicates).insertAll (ds.map (entry options))

/-- The object of a style sheet, which has at least one declaration. -/
def object (options : Options) (css : Text) : Except Fault Object :=
  match declarations options.mode css with
  | .ok [] => .error .noDeclarations
  | .ok (d :: ds) => .ok (objectOf options (d :: ds))
  | .error fault => .error fault

/-- The object of a style sheet as it is written. -/
def render (options : Options) (css : Text) : Except Fault Text :=
  match object options css with
  | .ok o => .ok (o.render options.indent)
  | .error fault => .error fault

/-- The object of a style sheet as it is written, or else the style sheet itself. -/
def renderOrEcho (options : Options) (css : Text) : Text :=
  match render options css with
  | .ok text => text
  | .error _ => css

/-- The events of adding entries to an object. -/
def insertEvents (o : Object) : List Entry → List Event
  | [] => []
  | e :: es =>
    (match o.position? e.key with
      | some _ => [.overwritten e.key]
      | none => []) ++ insertEvents (o.insert e.name e.value) es

/-- The events of making the object of a style sheet. -/
def trace (options : Options) (css : Text) : List Event :=
  Block.trace options.mode (flatten css) ++
    match declarations options.mode css with
    | .ok ds => insertEvents (Object.empty options.duplicates) (ds.map (entry options))
    | .error _ => []

/-- The event of giving a style sheet back as it is. -/
def echoEvents (options : Options) (css : Text) : List Event :=
  match render options css with
  | .ok _ => []
  | .error fault => [.echoed fault]

end StyleObject.Sheet
