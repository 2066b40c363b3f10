import StyleObject.Main
import StyleObject.Proofs.Block.Append
import StyleObject.Proofs.Block.Invariant
import StyleObject.Proofs.Block.Reading
import StyleObject.Proofs.Block.Selector
import StyleObject.Proofs.Command.Log
import StyleObject.Proofs.Key.Standard
import StyleObject.Proofs.Literal.Bare
import StyleObject.Proofs.Nesting.Place
import StyleObject.Proofs.Sheet.Comment
import StyleObject.Proofs.Sheet.Echo
import StyleObject.Proofs.Sheet.Flatten
import StyleObject.Proofs.Sheet.Indent
import StyleObject.Proofs.Sheet.Parentheses
import StyleObject.Proofs.Sheet.Readable
import StyleObject.Proofs.Sheet.Strict
import StyleObject.Proofs.Text.OnePass
import StyleObject.Proofs.Text.Rounds
import StyleObject.Proofs.Value.Marker
import StyleObject.Proofs.Value.Shape
import StyleObject.Proofs.Value.Structure
