/-
What can be wrong with fields that come from outside, as causes. A field that fails tells where it stands and what its
problem is; the words of a problem are made from the cause in one place.
-/
import SourceMark.Dialect.Language
import SourceMark.Text.Quoted

namespace SourceMark

/-- a value of the right type that settings cannot take -/
inductive Rejection where
  | attributeName (value : Text)
  | componentPrefix (value : Text)
  | templateExtension (value : Text)
  | dialect (value : Text)
  deriving DecidableEq

namespace Rejection

/-- the rejected value -/
def value : Rejection → Text
  | .attributeName value | .componentPrefix value | .templateExtension value | .dialect value => value

def message : Rejection → Text
  | .attributeName value => "Invalid attribute name: ".toList ++ Text.quoted value
  | .componentPrefix _ => "component_prefix must not be empty".toList
  | .templateExtension value => "template_extension must start with '.': ".toList ++ Text.quoted value
  | .dialect value => Text.quoted (Language.unknownMessage value)

end Rejection

/-- what is wrong with one field -/
inductive Problem where
  | missing
  | notInteger
  | notString
  | notUnicode
  | emptyString
  | belowOne
  | notBoolean
  | unreadableBoolean
  | notList
  | notReference
  | rejected (cause : Rejection)
  deriving DecidableEq

namespace Problem

def kind : Problem → Text
  | .missing => "missing".toList
  | .notInteger => "int_type".toList
  | .notString => "string_type".toList
  | .notUnicode => "string_unicode".toList
  | .emptyString => "string_too_short".toList
  | .belowOne => "greater_than_equal".toList
  | .notBoolean => "bool_type".toList
  | .unreadableBoolean => "bool_parsing".toList
  | .notList => "tuple_type".toList
  | .notReference => "model_type".toList
  | .rejected _ => "value_error".toList

def message : Problem → Text
  | .missing => "Field required".toList
  | .notInteger => "Input should be a valid integer".toList
  | .notString => "Input should be a valid string".toList
  | .notUnicode => "Input should be a valid string, unable to parse raw data as a unicode string".toList
  | .emptyString => "String should have at least 1 character".toList
  | .belowOne => "Input should be greater than or equal to 1".toList
  | .notBoolean => "Input should be a valid boolean".toList
  | .unreadableBoolean => "Input should be a valid boolean, unable to interpret input".toList
  | .notList => "Input should be a valid tuple".toList
  | .notReference => "Input should be a valid dictionary or instance of SourceReference".toList
  | .rejected cause => "Value error, ".toList ++ cause.message

end Problem

/-- a field that failed: its name (none for the whole value), the item of a list that is meant, and the problem -/
structure FieldError where
  field : Text
  item : Option Nat := none
  problem : Problem
  deriving DecidableEq

/-- the place of an error: the field's name, and behind a point the number of the item -/
def FieldError.location (e : FieldError) : Text :=
  match e.item with
  | none => e.field
  | some index => e.field ++ '.' :: Nat.toDigits 10 index

end SourceMark
