/-
Scanning a template for opening tags. The scanner reads from left to right. At each place it takes the first of these
that stands there: a raw-text element with its body, a code block, a block between two directives, the call of a
directive with its arguments, or the start of a tag with one of the scanner's names. Only the last yields anything;
all of them are stepped over as a whole. A call whose arguments never end is stepped over up to its parenthesis, and a
tag that never ends up to the end of its name. Letters match without regard to case, the delimiters of nested regions
excepted.

`text_eq_of_tagAt?`: the text of a tag that is read stands at the place where it is read.
-/
import SourceMark.Tag.Hazard
import SourceMark.Tag.Nesting
import SourceMark.Text.Caseless

namespace SourceMark

/-- an opening tag: its name, its attributes up to the closing bracket, the offset of its opening bracket, and whether a
closing bracket stands inside a region of the attributes -/
structure Tag where
  name : Text
  attributes : Text
  start : Nat
  nestedGt : Bool
  deriving DecidableEq

namespace Tag

def text (t : Tag) : Text :=
  '<' :: t.name ++ t.attributes ++ ['>']

def stop (t : Tag) : Nat :=
  t.start + t.text.length

end Tag

/-- what to look for: the names of tags, and the prefix of further names (empty when there are none) -/
structure Scanner where
  dialect : Dialect
  componentPrefix : Text
  tagNames : List Text

namespace Scanner

/-- what follows `pattern`, case apart -/
def dropLetters? (pattern text : Text) : Option Text :=
  Text.dropHeadBy? Text.sameLetter pattern text

/-- what follows the first `closer` -/
def behindCloser? (closer : Text) : Text → Option Text
  | [] => dropLetters? closer []
  | c :: rest => (dropLetters? closer (c :: rest)).or (behindCloser? closer rest)

/-! ## Stretches that are never markup -/

/-- the elements whose bodies are never markup -/
def rawTextElements : List Text :=
  ["script".toList, "style".toList]

/-- what follows a start tag; `quote` is the quote that is open -/
def behindStartTag? : (quote : Option Char) → Text → Option Text
  | _, [] => none
  | some quote, c :: rest => behindStartTag? (if c = quote then none else some quote) rest
  | none, c :: rest =>
    if c = '>' then some rest
    else if c = '<' then none
    else behindStartTag? (if Quote.isQuote c then some c else none) rest

/-- what follows the end tag of `name` at the head of the text -/
def behindEndTagAt? (name text : Text) : Option Text := do
  let rest ← Text.dropHead? "</".toList text
  let rest ← Text.dropHeadBy? Text.sameSmallForm name rest
  match rest.dropWhile Text.isBlank with
  | '>' :: rest => some rest
  | _ => none

def behindEndTag? (name : Text) : Text → Option Text
  | [] => none
  | c :: rest => (behindEndTagAt? name (c :: rest)).or (behindEndTag? name rest)

/-- whether the text does not go on with a word character -/
def wordBoundary (text : Text) : Bool :=
  text.head?.all fun c => !Text.isWord c

/-- what follows a raw-text element at the head of the text -/
def behindRawText? : Text → Option Text
  | '<' :: text =>
    rawTextElements.findSome? fun name => do
      let rest ← dropLetters? name text
      if wordBoundary rest then
        let body ← behindStartTag? none rest
        behindEndTag? (text.take name.length) body
      else none
  | _ => none

/-- what follows a code block at the head of the text -/
def behindBlock? (block : Delimiters) (text : Text) : Option Text :=
  (dropLetters? block.opener text).bind (behindCloser? block.closer)

/-- what follows a directive word at the head of the text, no word character standing on either side of it -/
def behindWord? (word : Text) (before : Option Char) (text : Text) : Option Text :=
  if Dialect.startsWord before then (dropLetters? word text).filter wordBoundary else none

/-- what follows the first `word` that stands as a word of its own -/
def behindLaterWord? (word : Text) : (before : Option Char) → Text → Option Text
  | before, [] => behindWord? word before []
  | before, c :: rest => (behindWord? word before (c :: rest)).or (behindLaterWord? word (some c) rest)

/-- whether a parenthesis follows, perhaps behind blanks on the line -/
def callFollows (text : Text) : Bool :=
  (text.dropWhile Text.isHorizontalBlank).head? = some '('

/-- what follows a block between two directives at the head of the text; an opening directive with arguments opens
none -/
def behindDirectives? (block : Delimiters) (before : Option Char) (text : Text) : Option Text := do
  let rest ← behindWord? block.opener before text
  if callFollows rest then none
  else behindLaterWord? block.closer (text.take block.opener.length).getLast? rest

/-- what follows the stretch that is never markup at the head of the text -/
def behindOpaque? (d : Dialect) (before : Option Char) (text : Text) : Option Text :=
  (behindRawText? text).or <|
    (d.codeBlocks.findSome? (behindBlock? · text)).or <|
      d.blockDirectives.findSome? (behindDirectives? · before text)

/-! ## Directive calls -/

/-- how many characters a directive call at the head of the text takes up to and with its parenthesis -/
def callHead? (d : Dialect) (before : Option Char) (text : Text) : Option Nat :=
  (d.directiveAt? Text.sameLetter (fun rest => Dialect.wordEnds rest && callFollows rest) before text).map fun word =>
    word.length + ((text.drop word.length).takeWhile Text.isHorizontalBlank).length + 1

/-- how many characters a directive call at the head of the text takes, its arguments included when they end -/
def call? (d : Dialect) (before : Option Char) (text : Text) : Option Nat :=
  (callHead? d before text).map fun n =>
    n + (Nesting.length? d.nestedRegions 0 [[')']] (text.drop n)).getD 0

/-! ## Tags -/

def nameEnds (text : Text) : Bool :=
  text.head?.any fun c => Text.isBlank c || c == '/' || c == '>'

/-- how long the name of a component is that stands at the head of the text -/
def componentName? (s : Scanner) (text : Text) : Option Nat :=
  if s.componentPrefix.isEmpty then none
  else
    (dropLetters? s.componentPrefix text).bind fun rest =>
      let more := rest.takeWhile Dialect.isNameChar
      if !more.isEmpty && nameEnds (rest.drop more.length) then some (s.componentPrefix.length + more.length) else none

/-- how long the tag name is that stands at the head of the text -/
def nameLength? (s : Scanner) (text : Text) : Option Nat :=
  (s.componentName? text).or <|
    s.tagNames.findSome? fun name =>
      if !name.isEmpty && (dropLetters? name text).any nameEnds then some name.length else none

/-- what stands at a place: an ordinary character, a stretch of so many characters that yields nothing, or a tag -/
inductive Reading where
  | ordinary
  | stretch (length : Nat)
  | tag (tag : Tag)

/-- reads a tag at the head of the text, which stands at `offset` -/
def tagAt? (s : Scanner) (offset : Nat) : Text → Option Reading
  | '<' :: text =>
    (s.nameLength? text).map fun n =>
      match Nesting.body? s.dialect.nestedRegions (text.drop n) with
      | some body => .tag ⟨text.take n, body.attributes, offset, body.nestedGt⟩
      | none => .stretch (n + 1)
  | _ => none

/-- reads what stands at the head of the text; `before` is the character before it -/
def read (s : Scanner) (before : Option Char) (offset : Nat) (text : Text) : Reading :=
  match behindOpaque? s.dialect before text with
  | some rest => .stretch (text.length - rest.length)
  | none =>
    match call? s.dialect before text with
    | some n => .stretch n
    | none => (s.tagAt? offset text).getD .ordinary

/-- the tags from `offset` on; the first `skip` characters belong to the stretch before -/
def scanFrom (s : Scanner) : (skip : Nat) → (before : Option Char) → (offset : Nat) → Text → List Tag
  | _, _, _, [] => []
  | skip + 1, _, offset, c :: rest => s.scanFrom skip (some c) (offset + 1) rest
  | 0, before, offset, c :: rest =>
    match s.read before offset (c :: rest) with
    | .ordinary => s.scanFrom 0 (some c) (offset + 1) rest
    | .stretch n => s.scanFrom (n - 1) (some c) (offset + 1) rest
    | .tag t => t :: s.scanFrom (t.text.length - 1) (some c) (offset + 1) rest

/-- the opening tags of a text, left to right -/
def scan (s : Scanner) (text : Text) : List Tag :=
  s.scanFrom 0 none 0 text

/-- a scanner needs a name to look for -/
inductive BuildError where
  | noNames

def BuildError.message : BuildError → Text
  | .noNames => "At least one tag name or a component prefix is required".toList

/-- the scanner for tag names and, where there is one, a prefix of component names -/
def build (dialect : Dialect) (componentPrefix : Option Text) (tagNames : List Text) : Except BuildError Scanner :=
  let componentPrefix := componentPrefix.getD []
  if componentPrefix.isEmpty && tagNames.all (·.isEmpty) then .error .noNames
  else .ok ⟨dialect, componentPrefix, tagNames⟩

theorem text_eq_of_tagAt? {s : Scanner} {offset : Nat} {text : Text} {t : Tag}
    (h : s.tagAt? offset text = some (.tag t)) : t.start = offset ∧ t.text <+: text := by
  unfold tagAt? at h
  split at h
  · next text =>
    obtain ⟨n, -, hn⟩ := Option.map_eq_some_iff.1 h
    split at hn
    · next body hbody =>
      simp only [Reading.tag.injEq] at hn
      have := Nesting.body?_eq_some hbody
      refine ⟨by simp [← hn], body.rest, ?_⟩
      conv => rhs; rw [← List.take_append_drop n text, this]
      simp [← hn, Tag.text]
    · simp at hn
  · simp at h

end Scanner

end SourceMark
