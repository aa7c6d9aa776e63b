/-
Hazards: template code in a tag that makes it unsafe to add an attribute. Raw code counts wherever it stands; the
other kinds count outside quotes only. The kinds are looked for in a fixed order and the first hazard found is the
reason.
-/
import SourceMark.Dialect.Basic
import SourceMark.Tag.Quote
import SourceMark.Text.Blank
import SourceMark.Text.Quoted
import SourceMark.Text.Word

namespace SourceMark

/-- what makes a tag unsafe, with the text that shows it -/
inductive Hazard where
  | rawCode (marker : Text)
  | unquoted (marker : Text)
  | dynamicAttribute (text : Text)
  | directive (text : Text)
  deriving DecidableEq

namespace Hazard

def message : Hazard → Text
  | .rawCode marker => "raw code ".toList ++ Text.quoted marker
  | .unquoted marker => "unquoted ".toList ++ Text.quoted marker
  | .dynamicAttribute text => "dynamic attribute ".toList ++ Text.quoted text
  | .directive text => "directive ".toList ++ Text.quoted text

end Hazard

namespace Dialect

/-- the characters of attribute and component names -/
def isNameChar (c : Char) : Bool :=
  Text.isWord c || c == '.' || c == ':' || c == '-'

/-- the characters that continue a directive's word into an attribute name -/
def continuesWord (c : Char) : Bool :=
  isNameChar c || c == '='

/-- whether a directive may start after this character: not inside a word, and not behind another at sign -/
def startsWord (before : Option Char) : Bool :=
  before.all fun c => !(Text.isWord c || c == '@')

/-- the longest of the texts that pass a test -/
def longest? (test : Text → Bool) (texts : List Text) : Option Text :=
  texts.foldl (fun best text =>
    if test text && best.all fun other => other.length < text.length then some text else best) none

/-- the directive at the head of the text: its prefix and the longest of its words that passes `fits`, which is given
what follows the word -/
def directiveAt? (d : Dialect) (same : Char → Char → Bool) (fits : Text → Bool) (before : Option Char) (text : Text) :
    Option Text :=
  match d.directiveHead? with
  | none => none
  | some head =>
    if startsWord before then
      match Text.dropHeadBy? same head text with
      | none => none
      | some rest =>
        (longest? (fun word => (Text.dropHeadBy? same word rest).any fits) d.directiveKeywords).map fun word =>
          text.take (head.length + word.length)
    else none

/-- whether a word ends before this text -/
def wordEnds (rest : Text) : Bool :=
  rest.head?.all fun c => !continuesWord c

/-- the first directive in a text; `before` is the character before it -/
def findDirective? (d : Dialect) (before : Option Char) : Text → Option Text
  | [] => d.directiveAt? (· == ·) wordEnds before []
  | c :: rest => (d.directiveAt? (· == ·) wordEnds before (c :: rest)).or (d.findDirective? (some c) rest)

/-- the dynamic attribute at the head of the text: a colon, a name, and an equals sign with blanks before it or not -/
def dynamicAttributeAt? : Text → Option Text
  | ':' :: rest =>
    let name := rest.takeWhile isNameChar
    let behind := rest.dropWhile isNameChar
    match name, behind.dropWhile Text.isBlank with
    | _ :: _, '=' :: _ => some (':' :: name ++ behind.takeWhile Text.isBlank ++ ['='])
    | _, _ => none
  | _ => none

/-- the first dynamic attribute behind a blank -/
def dynamicAttributeBehindBlank? : Text → Option Text
  | [] => none
  | c :: rest =>
    if Text.isBlank c then (dynamicAttributeAt? rest).or (dynamicAttributeBehindBlank? rest)
    else dynamicAttributeBehindBlank? rest

def findDynamicAttribute? (text : Text) : Option Text :=
  (dynamicAttributeAt? text).or (dynamicAttributeBehindBlank? text)

/-- what makes a tag with this text unsafe, if anything -/
def hazard? (d : Dialect) (text : Text) : Option Hazard :=
  let unquoted := Quote.blank text
  ((d.rawCodeMarkers.find? (Text.occursIn · text)).map Hazard.rawCode).or <|
    ((d.unquotedMarkers.find? (Text.occursIn · unquoted)).map Hazard.unquoted).or <|
      ((if d.dynamicAttributes then findDynamicAttribute? unquoted else none).map Hazard.dynamicAttribute).or <|
        (d.findDirective? none unquoted).map Hazard.directive

end Dialect

end SourceMark
