/-
JSON values and their compact written form. Whole numbers of any size are kept apart from numbers with a fraction or
an exponent, because a line number must be the former. A member that is named twice counts with its last value.

`member?_append`: later members win over earlier ones.
-/
import SourceMark.Text.Quoted
import SourceMark.Text.Digits

namespace SourceMark

/-- a JSON value; `decimal m e` is `m · 10 ^ e` written with a fraction or an exponent, `notFinite` an infinity or the
value that is no number -/
inductive Json where
  | null
  | bool (value : Bool)
  | int (value : Int)
  | decimal (mantissa exponent : Int)
  | notFinite
  | text (value : Text)
  | array (items : List Json)
  | object (members : List (Text × Json))

namespace Json

def member? (name : Text) (members : List (Text × Json)) : Option Json :=
  members.reverse.lookup name

theorem member?_append (name : Text) (earlier later : List (Text × Json)) :
    member? name (earlier ++ later) = (member? name later).or (member? name earlier) := by
  simp [member?, List.lookup_append]

/-- one character inside a written string -/
def escape (c : Char) : Text :=
  if c = '"' || c = '\\' then ['\\', c]
  else if c = '\n' then ['\\', 'n']
  else if c = '\r' then ['\\', 'r']
  else if c = '\t' then ['\\', 't']
  else if c.toNat = 8 then ['\\', 'b']
  else if c.toNat = 12 then ['\\', 'f']
  else if c.toNat < 32 then '\\' :: 'u' :: Text.hex 4 c.toNat
  else [c]

def renderText (value : Text) : Text :=
  '"' :: value.flatMap escape ++ ['"']

mutual

/-- the compact written form of a value -/
def render : Json → Text
  | .null => "null".toList
  | .bool value => if value then "true".toList else "false".toList
  | .int value => Text.signedDecimal value
  | .decimal mantissa exponent => Text.signedDecimal mantissa ++ 'e' :: Text.signedDecimal exponent
  | .notFinite => "NaN".toList
  | .text value => renderText value
  | .array items => '[' :: renderItems items ++ [']']
  | .object members => '\x7b' :: renderMembers members ++ ['\x7d']

def renderItems : List Json → Text
  | [] => []
  | [item] => render item
  | item :: items => render item ++ ',' :: renderItems items

def renderMembers : List (Text × Json) → Text
  | [] => []
  | [(name, value)] => renderText name ++ ':' :: render value
  | (name, value) :: members => renderText name ++ ':' :: render value ++ ',' :: renderMembers members

end

end Json

end SourceMark
