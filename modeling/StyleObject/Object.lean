import Std.Data.HashMap
import StyleObject.Key
import StyleObject.Value.Basic

/-!
# Objects

An object is an ordered list of entries. When the last of two declarations with one key wins, the
object also knows the position of each key, and a repeated key only changes the value at that
position.
-/
namespace StyleObject

/-- A property under its name in the style sheet, with its value. -/
structure Entry where
  name : Text
  value : Value
  deriving DecidableEq, Repr

namespace Entry

def key (e : Entry) : Text := Key.ofName e.name

/-- An entry as it is written, which may take several lines. -/
def text (e : Entry) : Text := e.key ++ [':', ' '] ++ e.value.text ++ [',']

end Entry

structure Object where
  duplicates : Duplicates
  entries : List Entry := []
  /-- The position of each key; only used when the last declaration wins. -/
  positions : Std.HashMap Text Nat := ∅

namespace Object

def empty (duplicates : Duplicates) : Object where
  duplicates := duplicates

def size (o : Object) : Nat := o.entries.length

def isEmpty (o : Object) : Bool := o.entries.isEmpty

/-- The position of the entry that a new value for `key` goes to. -/
def position? (o : Object) (key : Text) : Option Nat :=
  match o.duplicates with
  | .lastWins => o.positions[key]?
  | .keepAll => none

/-- Gives another value to the entry at a position. -/
def setValue (o : Object) (position : Nat) (value : Value) : Object :=
  { o with entries := o.entries.modify position fun e => { e with value := value } }

/-- Adds an entry at the end. -/
def push (o : Object) (e : Entry) : Object :=
  { o with
    entries := o.entries ++ [e]
    positions := match o.duplicates with
      | .lastWins => o.positions.insert e.key o.entries.length
      | .keepAll => o.positions }

/-- Adds a declaration: at the position that its key has, or else at the end. -/
def insert (o : Object) (name : Text) (value : Value) : Object :=
  match o.position? (Key.ofName name) with
  | some position => o.setValue position value
  | none => o.push ⟨name, value⟩

/-- Adds the declarations of a list, one after the other. -/
def insertAll (o : Object) (entries : List Entry) : Object :=
  entries.foldl (fun o e => o.insert e.name e.value) o

/-- The lines between the braces. The length of a text is not bounded here, so every indent can be
written; where a text is bounded by `2 ^ 63 - 1` bytes, writing fails at a greater indent. -/
def lines (o : Object) (indent : Nat) : List Text :=
  (o.entries.flatMap fun e => Text.lines e.text).map (List.replicate indent ' ' ++ ·)

/-- The object as it is written, with `indent` spaces before each line of its entries. -/
def render (o : Object) (indent : Nat) : Text :=
  ['\x7b', '\n'] ++ ['\n'].intercalate (o.lines indent) ++ ['\n', '\x7d']

@[simp] theorem entries_empty (duplicates : Duplicates) : (empty duplicates).entries = [] := rfl

@[simp] theorem duplicates_insert (o : Object) (name : Text) (value : Value) :
    (o.insert name value).duplicates = o.duplicates := by
  unfold insert
  split <;> rfl

end Object

end StyleObject
