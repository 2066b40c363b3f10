import StyleObject.Numeral
import StyleObject.Options

/-!
# Arguments

The arguments of the command line are read in two steps: the words become items, which are flags,
settings with a value, and paths, and the items are gathered into one record. Each flag and each
setting may be given once, except for the important keys, which accumulate.
-/
namespace StyleObject.Command

/-- What is switched on by its name. -/
inductive Flag where
  | strict
  | keepDuplicates
  | fail
  | verbose
  deriving DecidableEq, Repr

/-- What takes a value. -/
inductive Setting where
  | output
  | indent
  | important
  | logFile
  deriving DecidableEq, Repr

def Flag.name : Flag → Text
  | strict => "strict".toList
  | keepDuplicates => "keep-duplicates".toList
  | fail => "fail".toList
  | verbose => "verbose".toList

def Setting.name : Setting → Text
  | output => "output".toList
  | indent => "indent".toList
  | important => "important".toList
  | logFile => "log-file".toList

def Flag.ofName? (name : Text) : Option Flag :=
  [strict, keepDuplicates, fail, verbose].find? (·.name = name)

def Setting.ofName? (name : Text) : Option Setting :=
  [output, indent, important, logFile].find? (·.name = name)

/-- How a command line can be wrong. -/
inductive Misuse where
  | unknownOption (word : Text)
  | missingValue (name : Text)
  | needlessValue (name : Text)
  | repeatedOption (name : Text)
  | secondPath (path : Text)
  | emptyPath
  | notNumber (text : Text)
  deriving DecidableEq, Repr

def Misuse.message : Misuse → Text
  | unknownOption word => "unknown option ".toList ++ word
  | missingValue name => "a value is missing for --".toList ++ name
  | needlessValue name => "no value can be given to --".toList ++ name
  | repeatedOption name => "more than once: --".toList ++ name
  | secondPath path => "a second path: ".toList ++ path
  | emptyPath => "a path is empty".toList
  | notNumber text => "not a number of spaces: ".toList ++ text

/-- An argument by its form. -/
inductive Word where
  /-- A value or a path. -/
  | plain (text : Text)
  /-- Two hyphens, behind which all words are paths. -/
  | separator
  | long (name : Text) (value : Option Text)
  | short (letters : Text)
  deriving DecidableEq, Repr

def Word.ofText : Text → Word
  | ['-'] => .plain ['-']
  | ['-', '-'] => .separator
  | '-' :: '-' :: r =>
    match Text.cutAt? ['='] r with
    | some (name, value) => .long name (some value)
    | none => .long r none
  | '-' :: r => .short r
  | t => .plain t

inductive Item where
  | flag (flag : Flag)
  | setting (setting : Setting) (value : Text)
  | path (path : Text)
  deriving DecidableEq, Repr

namespace Item

/-- The items of a group of letters, and the setting that still needs its value. The value of the
output may follow in the group, with or without an equals sign. -/
def ofLetters : Text → Except Misuse (List Item × Option Setting)
  | [] => .ok ([], none)
  | 'v' :: r =>
    match ofLetters r with
    | .ok (items, awaiting) => .ok (.flag .verbose :: items, awaiting)
    | .error misuse => .error misuse
  | ['o'] => .ok ([], some .output)
  | 'o' :: r => .ok ([.setting .output (Text.dropStart ['='] r)], none)
  | c :: _ => .error (.unknownOption ['-', c])

/-- The items of a long option, and the setting that still needs its value. -/
def ofLong (name : Text) (value : Option Text) : Except Misuse (List Item × Option Setting) :=
  match Flag.ofName? name, Setting.ofName? name, value with
  | some f, _, none => .ok ([.flag f], none)
  | some _, _, some _ => .error (.needlessValue name)
  | none, some s, some v => .ok ([.setting s v], none)
  | none, some s, none => .ok ([], some s)
  | none, none, _ => .error (.unknownOption (['-', '-'] ++ name))

/-- The items of the words, of which the first is the value of the awaited setting, if there is
one. -/
def ofWords : Option Setting → List Text → Except Misuse (List Item)
  | none, [] => .ok []
  | some s, [] => .error (.missingValue s.name)
  | some s, w :: ws =>
    match Word.ofText w with
    | .plain v => (ofWords none ws).map (.setting s v :: ·)
    | _ => .error (.missingValue s.name)
  | none, w :: ws =>
    match Word.ofText w with
    | .plain p => (ofWords none ws).map (.path p :: ·)
    | .separator => .ok (ws.map .path)
    | .long name value =>
      match ofLong name value with
      | .ok (items, awaiting) => (ofWords awaiting ws).map (items ++ ·)
      | .error misuse => .error misuse
    | .short letters =>
      match ofLetters letters with
      | .ok (items, awaiting) => (ofWords awaiting ws).map (items ++ ·)
      | .error misuse => .error misuse

end Item

structure Arguments where
  /-- The path of the style sheet. -/
  input : Option Text := none
  output : Option Text := none
  strict : Bool := false
  keepDuplicates : Bool := false
  indent : Option Nat := none
  important : Option (List Text) := none
  fail : Bool := false
  logFile : Option Text := none
  verbose : Bool := false
  deriving DecidableEq, Repr

/-- The number of decimal digits. -/
def numberOfDigits (digits : Text) : Nat :=
  digits.foldl (fun n c => 10 * n + (c.toNat - '0'.toNat)) 0

/-- A number of spaces below two to the power of 64, which may have a plus sign. -/
def readIndent? (t : Text) : Option Nat :=
  let digits := Text.dropStart ['+'] t
  if Numeral.isDigits digits && numberOfDigits digits < UInt64.size then some (numberOfDigits digits)
  else none

namespace Arguments

def setFlag (a : Arguments) (flag : Flag) : Except Misuse Arguments :=
  match flag with
  | .strict => if a.strict then repeated else .ok { a with strict := true }
  | .keepDuplicates => if a.keepDuplicates then repeated else .ok { a with keepDuplicates := true }
  | .fail => if a.fail then repeated else .ok { a with fail := true }
  | .verbose => if a.verbose then repeated else .ok { a with verbose := true }
where
  repeated : Except Misuse Arguments := .error (.repeatedOption flag.name)

def setValue (a : Arguments) (setting : Setting) (value : Text) : Except Misuse Arguments :=
  match setting with
  | .output =>
    if a.output.isSome then repeated
    else if value.isEmpty then .error .emptyPath
    else .ok { a with output := some value }
  | .logFile =>
    if a.logFile.isSome then repeated
    else if value.isEmpty then .error .emptyPath
    else .ok { a with logFile := some value }
  | .indent =>
    if a.indent.isSome then repeated
    else match readIndent? value with
      | some n => .ok { a with indent := some n }
      | none => .error (.notNumber value)
  | .important =>
    .ok { a with important := some (a.important.getD [] ++ value.splitOn ',') }
where
  repeated : Except Misuse Arguments := .error (.repeatedOption setting.name)

def setPath (a : Arguments) (path : Text) : Except Misuse Arguments :=
  if a.input.isSome then .error (.secondPath path)
  else if path.isEmpty then .error .emptyPath
  else .ok { a with input := some path }

def add (a : Arguments) : Item → Except Misuse Arguments
  | .flag flag => a.setFlag flag
  | .setting setting value => a.setValue setting value
  | .path path => a.setPath path

/-- The arguments that the words of a command line give. -/
def ofWords (words : List Text) : Except Misuse Arguments := do
  (← Item.ofWords none words).foldlM add {}

/-- The options of the conversion that the arguments ask for. -/
def options (a : Arguments) : Options where
  mode := if a.strict then .strict else .lenient
  duplicates := if a.keepDuplicates then .keepAll else .lastWins
  indent := a.indent.getD 2
  important := a.important

end Arguments

end StyleObject.Command
