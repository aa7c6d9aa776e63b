/-
Dialects: what a template language adds to HTML. A dialect names the marks that make a tag unsafe to touch, the blocks
that are code and never markup, the regions that may nest inside a tag, and the words that are directives.

`Dialect.plain` adds nothing, so a text in it is bare HTML.
-/
import SourceMark.Text.Basic

namespace SourceMark

/-- the texts that open and close a block or a region -/
structure Delimiters where
  opener : Text
  closer : Text
  deriving DecidableEq

/-- what a template language adds to HTML -/
structure Dialect where
  name : Text
  /-- code that makes a tag unsafe wherever it stands in the tag -/
  rawCodeMarkers : List Text := []
  /-- code that makes a tag unsafe when it stands outside quotes -/
  unquotedMarkers : List Text := []
  /-- blocks that hold code, never markup -/
  codeBlocks : List Delimiters := []
  /-- blocks that hold code and are delimited by two directives -/
  blockDirectives : List Delimiters := []
  /-- regions of a tag in which a closing angle bracket does not end the tag -/
  nestedRegions : List Delimiters := []
  /-- what every directive starts with -/
  directivePrefix : Option Text := none
  /-- the words that are directives after the prefix -/
  directiveKeywords : List Text := []
  /-- whether an attribute whose name starts with a colon holds code -/
  dynamicAttributes : Bool := false

namespace Dialect

/-- bare HTML -/
def plain : Dialect where
  name := []

/-- the prefix of directives, when the dialect has both a prefix and words to follow it -/
def directiveHead? (d : Dialect) : Option Text :=
  match d.directivePrefix with
  | some (c :: head) => if d.directiveKeywords.isEmpty then none else some (c :: head)
  | _ => none

end Dialect

end SourceMark
