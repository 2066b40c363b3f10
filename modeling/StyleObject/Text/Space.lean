import StyleObject.Text.Basic
import StyleObject.Unicode.Range

/-!
# White space

Two notions of white space. The five characters of `isSpace` separate words, and squeezing a text
leaves one U+0020 between its words. The wider `isBlank`, the Unicode property White_Space, is what
trimming removes from the two ends of a text.
-/
namespace StyleObject.Text

/-- Space, tab, line feed, form feed and carriage return. -/
def isSpace (c : Char) : Bool :=
  c == ' ' || c == '\t' || c == '\n' || c == '\x0c' || c == '\r'

/-- The maximal runs of characters that are no spaces. -/
def words (t : Text) : List Text := (t.splitOnP isSpace).filter (!·.isEmpty)

/-- The words of a text with one space between them. -/
def squeeze (t : Text) : Text := [' '].intercalate (words t)

def blankRanges : List Unicode.Range := [
  ⟨0x0009, 0x000D⟩, ⟨0x0020, 0x0020⟩, ⟨0x0085, 0x0085⟩, ⟨0x00A0, 0x00A0⟩, ⟨0x1680, 0x1680⟩,
  ⟨0x2000, 0x200A⟩, ⟨0x2028, 0x2029⟩, ⟨0x202F, 0x202F⟩, ⟨0x205F, 0x205F⟩, ⟨0x3000, 0x3000⟩]

/-- Whether `c` has the property White_Space. -/
def isBlank (c : Char) : Bool := Unicode.covers blankRanges c.toNat

theorem isBlank_of_isSpace {c : Char} (h : isSpace c = true) : isBlank c = true := by
  simp only [isSpace, Bool.or_eq_true, beq_iff_eq] at h
  rcases h with (((rfl | rfl) | rfl) | rfl) | rfl <;> decide

/-- The text without the blanks at its start. -/
def trimStart (t : Text) : Text := t.dropWhile isBlank

/-- The text without the blanks at its end. -/
def trimEnd (t : Text) : Text := (t.reverse.dropWhile isBlank).reverse

/-- The text without the blanks at its two ends. -/
def trim (t : Text) : Text := trimEnd (trimStart t)

/-- Ended lines lose one carriage return at their end; a last line that is empty is no line. -/
def closeLines : List Text → List Text
  | [] => []
  | [last] => if last.isEmpty then [] else [last]
  | t :: u :: ts => dropEnd ['\r'] t :: closeLines (u :: ts)

/-- The lines of a text. Each line feed ends one, and so does the end of the text. -/
def lines (t : Text) : List Text := closeLines (t.splitOn '\n')

end StyleObject.Text
