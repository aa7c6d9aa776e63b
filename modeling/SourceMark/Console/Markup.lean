/-
Console markup. A tag in brackets that starts with a small letter, a number sign, a slash or an at sign changes how
the text behind it looks; behind an odd number of backslashes it is text.

`escape` writes a text so that none of its brackets makes a tag. `said` is what a markup says, without its tags. A
closing tag must have a tag to close: `isBalanced`.
-/
import SourceMark.Text.Blank
import SourceMark.Text.Lower

namespace SourceMark.Markup

/-- the characters that a tag may start with -/
def isTagHead (c : Char) : Bool :=
  c.isLower || c == '#' || c == '/' || c == '@'

/-- the tag at the head of a text, without its brackets -/
def tag? : Text → Option Text
  | '[' :: c :: rest =>
    let more := rest.takeWhile fun c => c != '[' && c != ']'
    if isTagHead c && (rest.drop more.length).head? == some ']' then some (c :: more) else none
  | _ => none

/-- how many backslashes stand at the head of a text, and the tag behind them -/
def slashedTag? (text : Text) : Option (Nat × Text) :=
  let slashes := text.takeWhile (· == '\\')
  (tag? (text.drop slashes.length)).map fun tag => (slashes.length, tag)

/-! ## Writing -/

/-- `escape` but for a backslash at the end; the first `skip` characters stay as they are -/
def escapeFrom : (skip : Nat) → Text → Text
  | _, [] => []
  | skip + 1, c :: rest => c :: escapeFrom skip rest
  | 0, c :: rest =>
    match slashedTag? (c :: rest) with
    | some (slashes, tag) => List.replicate (slashes + 1) '\\' ++ c :: escapeFrom (slashes + tag.length + 1) rest
    | none => c :: escapeFrom 0 rest

/-- the text with its tags made text, and with a second backslash when it ends with a single one -/
def escape (text : Text) : Text :=
  let escaped := escapeFrom 0 text
  if Text.endsWith ['\\'] escaped && !Text.endsWith ['\\', '\\'] escaped then escaped ++ ['\\'] else escaped

/-! ## Reading -/

/-- a part of a markup: text between tags, text that was escaped, or a tag -/
inductive Chunk where
  | plain (text : Text)
  | escaped (text : Text)
  | tag (tag : Text)

def consPlain (c : Char) : List Chunk → List Chunk
  | .plain text :: chunks => .plain (c :: text) :: chunks
  | chunks => .plain [c] :: chunks

/-- the chunks of a markup; the first `skip` characters belong to the chunk before -/
def chunksFrom : (skip : Nat) → Text → List Chunk
  | _, [] => []
  | skip + 1, _ :: rest => chunksFrom skip rest
  | 0, c :: rest =>
    match slashedTag? (c :: rest) with
    | none => consPlain c (chunksFrom 0 rest)
    | some (slashes, tag) =>
      .escaped (List.replicate (slashes / 2) '\\') ::
        (if slashes % 2 = 1 then .escaped ('[' :: tag ++ [']']) else .tag tag) ::
          chunksFrom (slashes + tag.length + 1) rest

def chunks (markup : Text) : List Chunk :=
  chunksFrom 0 markup

def Chunk.text : Chunk → Text
  | .plain text => Text.replaceAll "\\[".toList "[".toList text
  | .escaped text => text
  | .tag _ => []

/-- what a markup says, piece by piece -/
def said (markup : Text) : List Text :=
  (chunks markup).map Chunk.text

/-! ## Open tags -/

def tagName (tag : Text) : Text :=
  Text.lower (Text.strip (tag.takeWhile (· != '=')))

/-- the open tags behind a chunk, the last one first; nothing when it closes a tag that is not open -/
def afterChunk? (opened : List Text) : Chunk → Option (List Text)
  | .tag ('/' :: tag) =>
    if (tagName tag).isEmpty then opened.tail?
    else if opened.contains (tagName tag) then some (opened.erase (tagName tag))
    else none
  | .tag tag => some (tagName tag :: opened)
  | _ => some opened

/-- whether every closing tag of a markup has a tag to close -/
def isBalanced (markup : Text) : Bool :=
  ((chunks markup).foldlM afterChunk? []).isSome

end SourceMark.Markup
