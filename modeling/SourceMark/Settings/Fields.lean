/-
Settings from fields. Every field may be missing, and then has its default; every field that fails is reported, in the
order of the fields. Truth values are taken in the usual spellings, names and texts only as texts.
-/
import SourceMark.Json.Value
import SourceMark.Settings.Basic
import SourceMark.Validation

namespace SourceMark.Settings

inductive Field where
  | enabled
  | attributeName
  | targetTags
  | markComponents
  | componentPrefix
  | templateRoots
  | templateExtension
  | dialect
  deriving DecidableEq

namespace Field

def all : List Field :=
  [.enabled, .attributeName, .targetTags, .markComponents, .componentPrefix, .templateRoots, .templateExtension,
    .dialect]

def name : Field → Text
  | .enabled => "enabled".toList
  | .attributeName => "attribute_name".toList
  | .targetTags => "target_tags".toList
  | .markComponents => "instrument_components".toList
  | .componentPrefix => "component_prefix".toList
  | .templateRoots => "template_roots".toList
  | .templateExtension => "template_extension".toList
  | .dialect => "dialect".toList

end Field

def trueWords : List Text :=
  ["1", "on", "t", "true", "y", "yes"].map String.toList

def falseWords : List Text :=
  ["0", "off", "f", "false", "n", "no"].map String.toList

/-- ten times `n`, so many times over -/
def tenTimes (times n : Nat) : Nat :=
  Nat.repeat (10 * ·) times n

/-- the whole number that `mantissa · 10 ^ exponent` is, if it is one and not past 64 bits -/
def whole? (mantissa exponent : Int) : Option Int :=
  if mantissa = 0 then some 0
  else if 0 ≤ exponent then
    if 20 < exponent then none else some (mantissa * (tenTimes exponent.toNat 1 : Nat))
  else
    let places := exponent.natAbs
    if (Nat.toDigits 10 mantissa.natAbs).length < places then none
    else if mantissa % (tenTimes places 1 : Nat) = 0 then some (mantissa / (tenTimes places 1 : Nat)) else none

/-- the first whole number past those that a signed word of 64 bits holds -/
def wordBound : Int := 0x8000000000000000

/-- the truth value that a whole number stands for -/
def checkWhole (n : Int) : Except Problem Bool :=
  if n = 0 then .ok false
  else if n = 1 then .ok true
  else if -wordBound ≤ n ∧ n < wordBound then .error .unreadableBoolean
  else .error .notBoolean

/-- the truth value that a field holds, or its problem -/
def checkBoolean : Json → Except Problem Bool
  | .bool value => .ok value
  | .text word =>
    let small := word.map Char.toLower
    if trueWords.contains small then .ok true
    else if falseWords.contains small then .ok false
    else .error .unreadableBoolean
  | .int n => checkWhole n
  | .decimal mantissa exponent =>
    match whole? mantissa exponent with
    | some n => checkWhole n
    | none => .error .notBoolean
  | _ => .error .notBoolean

/-- the text that a field holds, or its problem -/
def checkText : Json → Except Problem Text
  | .text value => .ok value
  | _ => .error .notString

def checkAttributeName (value : Json) : Except Problem { name : Text // AttributeName.accepts name = true } := do
  let name ← checkText value
  if h : AttributeName.accepts name = true then .ok ⟨name, h⟩ else .error (.rejected (.attributeName name))

def checkComponentPrefix (value : Json) : Except Problem { text : Text // text ≠ [] } := do
  let text ← checkText value
  if h : text ≠ [] then .ok ⟨text, h⟩ else .error (.rejected (.componentPrefix text))

def checkExtension (value : Json) : Except Problem { text : Text // text.head? = some '.' } := do
  let text ← checkText value
  if h : text.head? = some '.' then .ok ⟨text, h⟩ else .error (.rejected (.templateExtension text))

def checkLanguage (value : Json) : Except Problem Language := do
  let name ← checkText value
  match Language.ofName? name with
  | some language => .ok language
  | none => .error (.rejected (.dialect name))

/-- the value of a field that `check` takes, its default when the field is missing, or its error -/
def field {α : Type} (members : List (Text × Json)) (f : Field) (default : α) (check : Json → Except Problem α) :
    Except (List FieldError) α :=
  match Json.member? f.name members with
  | none => .ok default
  | some value => (check value).mapError fun problem => [⟨f.name, none, problem⟩]

/-- the texts of a list, or the errors of the items from `index` on that are no texts -/
def checkItems (f : Field) (index : Nat) : List Json → Except (List FieldError) (List Text)
  | [] => .ok []
  | item :: items =>
    match checkText item, checkItems f (index + 1) items with
    | .ok text, .ok texts => .ok (text :: texts)
    | .ok _, .error errors => .error errors
    | .error problem, .ok _ => .error [⟨f.name, some index, problem⟩]
    | .error problem, .error errors => .error (⟨f.name, some index, problem⟩ :: errors)

/-- the texts of a field, its default when the field is missing, or its errors -/
def textsField (members : List (Text × Json)) (f : Field) (default : List Text) (adjust : List Text → List Text) :
    Except (List FieldError) (List Text) :=
  match Json.member? f.name members with
  | none => .ok default
  | some (.array items) => (checkItems f 0 items).map adjust
  | some _ => .error [⟨f.name, none, .notList⟩]

def errorsOf {α : Type} : Except (List FieldError) α → List FieldError
  | .ok _ => []
  | .error errors => errors

/-- the settings of fields, or the errors of those that fail; of two fields with one name the later counts, and fields
with other names are ignored -/
def ofFields (members : List (Text × Json)) : Except (List FieldError) Settings :=
  let defaults := Settings.standard
  let enabled := field members .enabled defaults.enabled checkBoolean
  let attributeName := field members .attributeName defaults.checkedAttributeName checkAttributeName
  let targetTags := textsField members .targetTags defaults.targetTags normalizeTags
  let markComponents := field members .markComponents defaults.markComponents checkBoolean
  let componentPrefix := field members .componentPrefix defaults.checkedPrefix checkComponentPrefix
  let templateRoots := textsField members .templateRoots defaults.templateRoots id
  let templateExtension := field members .templateExtension defaults.checkedExtension checkExtension
  let language := field members .dialect defaults.language checkLanguage
  match enabled, attributeName, targetTags, markComponents, componentPrefix, templateRoots, templateExtension,
    language with
  | .ok enabled, .ok ⟨attributeName, accepted⟩, .ok targetTags, .ok markComponents, .ok ⟨componentPrefix, nonempty⟩,
    .ok templateRoots, .ok ⟨templateExtension, pointed⟩, .ok language =>
    .ok ⟨enabled, attributeName, targetTags, markComponents, componentPrefix, templateRoots, templateExtension, language,
      accepted, nonempty, pointed⟩
  | _, _, _, _, _, _, _, _ =>
    .error (errorsOf enabled ++ errorsOf attributeName ++ errorsOf targetTags ++ errorsOf markComponents ++
      errorsOf componentPrefix ++ errorsOf templateRoots ++ errorsOf templateExtension ++ errorsOf language)

end SourceMark.Settings
