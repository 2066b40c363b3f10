import StyleObject.Text.Basic

/-!
# Declarations

A property and its value as they stand in a block, both without blanks around them.
-/
namespace StyleObject

structure Declaration where
  property : Text
  value : Text
  deriving DecidableEq, Repr

end StyleObject
