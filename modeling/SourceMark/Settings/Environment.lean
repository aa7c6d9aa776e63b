/-
Settings from environment variables. Each field has a variable. Truth values are read when their variables are set,
the others when their variables are not empty. Overrides, fields given with a value other than null, win over
variables.
-/
import SourceMark.Settings.Fields

namespace SourceMark

abbrev Environment := List (Text × Text)

namespace Settings

def Field.variable : Field → Text
  | .enabled => "REFINE_ENABLED".toList
  | .attributeName => "REFINE_ATTRIBUTE_NAME".toList
  | .targetTags => "REFINE_TARGET_TAGS".toList
  | .markComponents => "REFINE_INSTRUMENT_COMPONENTS".toList
  | .componentPrefix => "REFINE_COMPONENT_PREFIX".toList
  | .templateRoots => "REFINE_TEMPLATE_ROOTS".toList
  | .templateExtension => "REFINE_TEMPLATE_EXTENSION".toList
  | .dialect => "REFINE_DIALECT".toList

/-- why there are no settings from the environment: a variable is no truth value, or fields fail -/
inductive EnvironmentError where
  | notBoolean (variableName value : Text)
  | invalid (errors : List FieldError)
  deriving DecidableEq

/-- what is said about a variable that is no truth value -/
def notBooleanMessage (variableName value : Text) : Text :=
  variableName ++ " must be a boolean, got ".toList ++ Text.quoted value

/-- the truth value in a variable -/
def readBoolean? (value : Text) : Option Bool :=
  let word := Text.lower (Text.strip value)
  if (["1", "true", "yes", "on"].map String.toList).contains word then some true
  else if (["0", "false", "no", "off"].map String.toList).contains word then some false
  else none

/-- the field that a variable of truth values sets -/
def booleanField (env : Environment) (f : Field) : Except EnvironmentError (List (Text × Json)) :=
  match env.lookup f.variable with
  | none => .ok []
  | some value =>
    match readBoolean? value with
    | some truth => .ok [(f.name, .bool truth)]
    | none => .error (.notBoolean f.variable value)

/-- the field that a variable sets when it is not empty, its value read by `value` -/
def textField (env : Environment) (f : Field) (value : Text → Json) : List (Text × Json) :=
  match env.lookup f.variable with
  | none | some [] => []
  | some text => [(f.name, value text)]

/-- the tags named in a variable, with commas between them -/
def readTags (text : Text) : Json :=
  .array (((Text.splitOn ',' text).filter fun tag => !(Text.strip tag).isEmpty).map .text)

def readRoots (text : Text) : Json :=
  .array (((Text.splitOn ':' text).filter fun root => !root.isEmpty).map .text)

def environmentFields (env : Environment) : Except EnvironmentError (List (Text × Json)) :=
  match booleanField env .enabled, booleanField env .markComponents with
  | .error e, _ => .error e
  | .ok _, .error e => .error e
  | .ok enabled, .ok markComponents =>
    .ok (enabled ++ textField env .attributeName .text ++ textField env .targetTags readTags ++ markComponents ++
      textField env .componentPrefix .text ++ textField env .templateRoots readRoots ++
      textField env .templateExtension .text ++ textField env .dialect .text)

/-- the overrides that count: a value of null overrides nothing -/
def effective (overrides : List (Text × Json)) : List (Text × Json) :=
  Field.all.filterMap fun f =>
    match Json.member? f.name overrides with
    | none | some .null => none
    | some value => some (f.name, value)

/-- the settings of environment variables and overrides -/
def ofEnvironment (env : Environment) (overrides : List (Text × Json)) : Except EnvironmentError Settings :=
  match environmentFields env with
  | .error e => .error e
  | .ok fields => (ofFields (fields ++ effective overrides)).mapError .invalid

end Settings

end SourceMark
