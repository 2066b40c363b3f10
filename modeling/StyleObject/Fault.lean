import StyleObject.Block.Phase
import StyleObject.Text.DoubleQuoted

/-!
# Faults

Why a style sheet has no object. Only the form of the block can be at fault: values are never
refused.
-/
namespace StyleObject

inductive Fault where
  /-- A delimiter, at an offset in bytes, that may not stand in the phase of the block. -/
  | unexpected (delimiter : Block.Delimiter) (offset : Nat) (phase : Block.Phase)
  /-- Text at the end that no delimiter ends. -/
  | unterminated (text : Text)
  /-- A block without declarations. -/
  | noDeclarations
  /-- A block without its closing brace. -/
  | unclosed
  deriving DecidableEq, Repr

namespace Fault

def message : Fault → Text
  | unexpected delimiter offset phase =>
    "unexpected '".toList ++ [delimiter.char] ++ "' at position ".toList ++ Text.decimal offset ++
      " while ".toList ++ phase.text
  | unterminated text => "unterminated declaration text: ".toList ++ Text.doubleQuoted text
  | noDeclarations => "no declarations found".toList
  | unclosed => "declaration block is missing its closing brace".toList

end Fault

end StyleObject
