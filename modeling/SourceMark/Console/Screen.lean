/-
Consoles. What is to be shown comes in pieces of text, and a console shows it on lines: emoji stand in the place of their
codes, no code reaching from one piece into another, tabs are spread, and control characters are left out. The consoles
here have no colours.
-/
import SourceMark.Console.Emoji
import SourceMark.Console.Markup
import SourceMark.Text.Wrap

namespace SourceMark

/-- what shows text that comes in pieces -/
structure Console where
  display : List Text → Text

namespace Console

/-- the control characters that are not shown -/
def isHiddenControl (c : Char) : Bool :=
  [0x07, 0x08, 0x0B, 0x0C, 0x0D].contains c.toNat

/-- the lines of what is to be shown, however long -/
def lines (pieces : List Text) : List Text :=
  (Text.splitOn '\n' ((pieces.flatMap Emoji.replace).filter fun c => !isHiddenControl c)).map Text.expandTabs

def unbounded : Console :=
  ⟨fun pieces => Text.join ['\n'] (lines pieces)⟩

/-- the console that breaks lines of more than `width` columns -/
def ofWidth (width : Nat) : Console :=
  ⟨fun pieces => Text.join ['\n'] ((lines pieces).flatMap (Text.wrap width))⟩

/-- a markup as a console prints it, on lines of its own -/
def print (console : Console) (markup : Text) : Text :=
  console.display (Markup.said markup) ++ ['\n']

end Console

end SourceMark
