/-
Markers: the attribute that a marked tag carries, and the place in the tag where it goes. It goes before the bracket
that ends the tag, or before the slash of a self-closing tag. Blanks on the line before that place give way to a
single one; line feeds before it stay.
-/
import SourceMark.Tag.Scanner

namespace SourceMark

namespace Tag

/-- a tag's characters without the bracket that ends it -/
def inner (t : Tag) : Text :=
  '<' :: t.name ++ t.attributes

theorem text_eq_inner (t : Tag) : t.text = t.inner ++ ['>'] := by
  simp [text, inner]

/-- whether a tag closes itself: its last character before the bracket, blanks apart, is a slash -/
def isSelfClosing (t : Tag) : Bool :=
  (Text.dropEnd Text.isBlank t.inner).getLast? == some '/'

end Tag

namespace Marker

/-- the marker with a token -/
def text (attributeName token : Text) : Text :=
  attributeName ++ "=\"".toList ++ token ++ ['"']

/-- what comes before the last slash -/
def beforeSlash (text : Text) : Text :=
  ((text.reverse.dropWhile (· != '/')).drop 1).reverse

/-- the tag with a marker -/
def insert (marker : Text) (t : Tag) : Text :=
  if t.isSelfClosing then Text.dropEnd Text.isHorizontalBlank (beforeSlash t.inner) ++ ' ' :: marker ++ " />".toList
  else Text.dropEnd Text.isHorizontalBlank t.inner ++ ' ' :: marker ++ ['>']

end Marker

end SourceMark
