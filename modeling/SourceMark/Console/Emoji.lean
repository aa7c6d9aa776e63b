/-
Emoji codes: a name between colons stands for the emoji of that name. A name that ends in `-emoji` or `-text` asks for
the emoji in that presentation. A code with a name that no emoji has stays as it is.
-/
import SourceMark.Console.EmojiNames
import SourceMark.Text.Blank
import SourceMark.Text.Lower

namespace SourceMark.Emoji

/-- the presentations that a code can ask for: how its name ends, and the character that selects the presentation -/
def presentations : List (Text × Char) :=
  [("-emoji".toList, '\ufe0f'), ("-text".toList, '\ufe0e')]

def named? (name : Text) : Option Text :=
  table.lookup (Text.lower name)

/-- what a code stands for -/
def meaning? (code : Text) : Option Text :=
  match presentations.find? fun presentation => Text.endsWith presentation.1 code with
  | some (ending, selector) => (named? (code.take (code.length - ending.length))).map (· ++ [selector])
  | none => named? code

def code? (text : Text) : Option Text :=
  let code := text.takeWhile fun c => c != ':' && !Text.isBlank c
  if (text.drop code.length).head? = some ':' then some code else none

/-- `replace` where the first `skip` characters are already replaced -/
def replaceFrom : (skip : Nat) → Text → Text
  | _, [] => []
  | skip + 1, _ :: rest => replaceFrom skip rest
  | 0, c :: rest =>
    if c = ':' then
      match code? rest with
      | none => c :: replaceFrom 0 rest
      | some code => (meaning? code).getD (':' :: code ++ [':']) ++ replaceFrom (code.length + 1) rest
    else c :: replaceFrom 0 rest

/-- the text with emoji in the place of their codes -/
def replace (text : Text) : Text :=
  replaceFrom 0 text

end SourceMark.Emoji
