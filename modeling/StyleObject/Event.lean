import StyleObject.Declaration
import StyleObject.Fault

/-!
# Events

What happens while a style sheet is made into an object, and how the log says it: one line for each
event, with its level, the part of the program that it concerns, and a message.
-/
namespace StyleObject

inductive Level where
  | debug
  | trace
  deriving DecidableEq, Repr

def Level.text : Level → Text
  | debug => "DEBUG".toList
  | trace => "TRACE".toList

inductive Event where
  /-- A style sheet of so many bytes was read. -/
  | opened (bytes : Nat)
  /-- A semicolon ended a declaration. -/
  | declared (declaration : Declaration)
  /-- A delimiter moved the block from one phase to another. -/
  | moved (before after : Block.Phase) (delimiter : Block.Delimiter)
  /-- Text at the end of an unclosed block was left out. -/
  | dropped (leftover : Text)
  /-- A key got another value. -/
  | overwritten (key : Text)
  /-- The style sheet stands for itself. -/
  | echoed (fault : Fault)
  deriving DecidableEq, Repr

namespace Event

def level : Event → Level
  | opened _ => .debug
  | declared _ => .trace
  | moved .. => .trace
  | dropped _ => .debug
  | overwritten _ => .trace
  | echoed _ => .debug

def target : Event → Text
  | opened _ => "css_to_jss".toList
  | declared _ => "jss::parser::tokenizer".toList
  | moved .. => "jss::parser::tokenizer".toList
  | dropped _ => "jss::parser::tokenizer".toList
  | overwritten _ => "jss::emitter".toList
  | echoed _ => "jss".toList

def message : Event → Text
  | opened bytes => "read ".toList ++ Text.decimal bytes ++ " bytes of CSS".toList
  | declared d =>
    "declaration ".toList ++ Text.doubleQuoted d.property ++ " -> ".toList ++
      Text.doubleQuoted d.value
  | moved before after delimiter =>
    "tokenizer ".toList ++ before.text ++ " -> ".toList ++ after.text ++ " on '".toList ++
      [delimiter.char] ++ ['\x27']
  | dropped leftover => "dropping unterminated text ".toList ++ Text.doubleQuoted leftover
  | overwritten key => "overwriting duplicate key ".toList ++ key
  | echoed fault => "returning input unchanged: ".toList ++ fault.message

/-- The line of the log for an event. -/
def line (e : Event) : Text :=
  ['['] ++ e.level.text ++ "] ".toList ++ e.target ++ [':', ' '] ++ e.message ++ ['\n']

end Event

end StyleObject
