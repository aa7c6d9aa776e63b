/-
Blanks: the characters that a text is trimmed of and that separate the parts of a tag. They are the ASCII blanks, the
four information separators, and the blanks of other scripts; a zero-width space is not one.
-/
import SourceMark.Text.Basic

namespace SourceMark.Text

/-- the blanks of any script -/
def isBlank (c : Char) : Bool :=
  inRanges [(0x09, 0x0D), (0x1C, 0x20), (0x85, 0x85), (0xA0, 0xA0), (0x1680, 0x1680), (0x2000, 0x200A),
    (0x2028, 0x2029), (0x202F, 0x202F), (0x205F, 0x205F), (0x3000, 0x3000)] c.toNat

/-- the blanks that stay on a line: the space and the tab -/
def isHorizontalBlank (c : Char) : Bool :=
  c == ' ' || c == '\t'

/-- the text without the blanks at either end -/
def strip (text : Text) : Text :=
  trim isBlank text

end SourceMark.Text
