import StyleObject.Options
import StyleObject.Value.Part
import StyleObject.Value.Shape

/-!
# Values

A value of the object is a shape and the text written for it. The text of a declaration's value is
squeezed, loses a marker of importance at its end, and is written part by part; the marker comes
back as an element of the last part if the options keep it for the key.
-/
namespace StyleObject

structure Value where
  shape : Shape
  text : Text
  deriving DecidableEq, Repr

namespace Value

/-- Whether the text is an array. -/
def isArray (v : Value) : Bool := v.text.head? == some '['

/-- The body of a squeezed text and whether a marker of importance stood behind it. -/
def splitMarker (t : Text) : Text × Bool :=
  match importantMarker.isSuffixOf? t with
  | some body => (Text.trimEnd body, true)
  | none => (t, false)

/-- The parts of the value that a declaration of `key` gives as `raw`. -/
def partsOf (options : Options) (key raw : Text) : List Part :=
  let (body, marked) := splitMarker (Text.squeeze raw)
  let parts := Part.ofValue key body
  if marked && options.keepsImportant key then Part.markLast parts else parts

/-- The value that a declaration of `key` gives as `raw`. -/
def ofRaw (options : Options) (key raw : Text) : Value where
  shape := Shape.ofText (splitMarker (Text.squeeze raw)).1
  text := Part.render (partsOf options key raw)

end Value

end StyleObject
