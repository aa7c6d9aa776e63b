/-
The quoted form of a text, as messages show it: in single quotes, or in double quotes when the text holds a single
quote and no double one. The quote, the backslash and every unprintable character are escaped.

`chooseQuote_notMem`: unless the text holds both quotes, the quotes around it do not occur in it.
-/
import SourceMark.Text.Printable

namespace SourceMark.Text

/-- the last `width` hexadecimal digits of a number -/
def hex : (width n : Nat) → Text
  | 0, _ => []
  | width + 1, n => hex width (n / 16) ++ [Nat.digitChar (n % 16)]

/-- the quote that goes around a text -/
def chooseQuote (text : Text) : Char :=
  if text.contains '\'' && !text.contains '"' then '"' else '\''

def quotedChar (quote c : Char) : Text :=
  if c = quote || c = '\\' then ['\\', c]
  else if c = '\n' then ['\\', 'n']
  else if c = '\r' then ['\\', 'r']
  else if c = '\t' then ['\\', 't']
  else if isPrintable c then [c]
  else if c.toNat < 0x100 then '\\' :: 'x' :: hex 2 c.toNat
  else if c.toNat < 0x10000 then '\\' :: 'u' :: hex 4 c.toNat
  else '\\' :: 'U' :: hex 8 c.toNat

def quoted (text : Text) : Text :=
  let quote := chooseQuote text
  quote :: text.flatMap (quotedChar quote) ++ [quote]

theorem chooseQuote_notMem {text : Text} (h : '\'' ∉ text ∨ '"' ∉ text) : chooseQuote text ∉ text := by
  unfold chooseQuote
  by_cases hs : '\'' ∈ text <;> by_cases hd : '"' ∈ text <;> simp_all

end SourceMark.Text
