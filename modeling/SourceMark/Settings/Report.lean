/-
The report of settings that are not valid: how many errors there are, and for each one the field, the words of its
problem, the problem's kind and the value that was given, shortened when it is long.
-/
import SourceMark.Bytes.Utf8
import SourceMark.Settings.Environment

namespace SourceMark.Settings

def maxShown : Nat := 50

/-- the characters at the head of a text that fit into so many bytes -/
def takeBytes (budget : Nat) : Text → Text
  | [] => []
  | c :: rest =>
    let size := (Utf8.encodeChar c).length
    if size ≤ budget then c :: takeBytes (budget - size) rest else []

/-- a text that takes too many bytes is cut to its first 25 and its last 24 -/
def shorten (text : Text) : Text :=
  if maxShown < (Utf8.encode text).length then
    takeBytes 25 text ++ "...".toList ++ (takeBytes 24 text.reverse).reverse
  else text

def shownValue : Problem → Text
  | .rejected cause => ", input_value=".toList ++ shorten (Text.quoted cause.value) ++ ", input_type=str".toList
  | _ => []

/-- the two lines of an error -/
def errorReport (e : FieldError) : Text :=
  '\n' :: e.location ++ "\n  ".toList ++ e.problem.message ++ " [type=".toList ++ e.problem.kind ++
    shownValue e.problem ++ [']']

def report (errors : List FieldError) : Text :=
  Text.decimal errors.length ++ " validation error".toList ++ (if errors.length = 1 then [] else ['s']) ++
    " for Settings".toList ++ errors.flatMap errorReport

def EnvironmentError.message : EnvironmentError → Text
  | .notBoolean variableName value => notBooleanMessage variableName value
  | .invalid errors => report errors

end SourceMark.Settings
