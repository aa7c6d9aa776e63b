/-
Options and arguments on a command line. An option has a long name, and may have a letter; letters can be run together
behind one hyphen. The value of an option follows an equals sign or the letter itself, or else it is the next word,
whatever that looks like. Two hyphens alone end the options.
-/
import SourceMark.Text.Basic

namespace SourceMark

inductive Opt where
  | help
  | verbose
  | root
  | templateId
  | attributeName
  | dialect
  | extension
  | noComponents
  | output
  | context
  deriving DecidableEq

namespace Opt

def name : Opt → Text
  | .help => "--help".toList
  | .verbose => "--verbose".toList
  | .root => "--root".toList
  | .templateId => "--template-id".toList
  | .attributeName => "--attribute".toList
  | .dialect => "--dialect".toList
  | .extension => "--extension".toList
  | .noComponents => "--no-components".toList
  | .output => "--output".toList
  | .context => "--context".toList

def letter? : Opt → Option Char
  | .help => some 'h'
  | .verbose => some 'v'
  | .root => some 'r'
  | .output => some 'o'
  | _ => none

def takesValue : Opt → Bool
  | .help | .verbose | .noComponents => false
  | _ => true

end Opt

/-- the options that were given, with their values, and the arguments -/
structure Words where
  options : List (Opt × Text)
  arguments : List Text

namespace Words

def has (w : Words) (o : Opt) : Bool :=
  w.options.any (·.1 == o)

def values (w : Words) (o : Opt) : List Text :=
  (w.options.filter (·.1 == o)).map (·.2)

/-- the value of an option; of several the last one counts -/
def value? (w : Words) (o : Opt) : Option Text :=
  (w.values o).getLast?

/-- options that are read from one word, the last one with its value yet to come or not -/
structure Reading where
  options : List (Opt × Text)
  pending : Option Opt

/-- reads letters that are run together; what follows the letter of an option with a value is that value -/
def readLetters? (known : List Opt) : Text → Option Reading
  | [] => some ⟨[], none⟩
  | c :: rest =>
    match known.find? fun o => o.letter? == some c with
    | none => none
    | some o =>
      if o.takesValue then some (if rest.isEmpty then ⟨[], some o⟩ else ⟨[(o, rest)], none⟩)
      else (readLetters? known rest).map fun r => { r with options := (o, []) :: r.options }

/-- reads a word as a long name, perhaps with a value behind an equals sign -/
def readName? (known : List Opt) (word : Text) : Option Reading :=
  let name := word.takeWhile (· != '=')
  match known.find? fun o => o.name == name with
  | none => none
  | some o =>
    match word.drop name.length with
    | [] => some (if o.takesValue then ⟨[], some o⟩ else ⟨[(o, [])], none⟩)
    | _ :: value => if o.takesValue then some ⟨[(o, value)], none⟩ else none

/-- reads a word that starts with a hyphen -/
def readWord? (known : List Opt) : Text → Option Reading
  | '-' :: '-' :: rest => readName? known ('-' :: '-' :: rest)
  | _ :: letters => readLetters? known letters
  | [] => none

/-- whether a word is read as an option: a hyphen with something behind it -/
def isOption : Text → Bool
  | '-' :: _ :: _ => true
  | _ => false

/-- reads words; options may stand behind arguments when `mixed`, otherwise the first argument ends them -/
def read? (known : List Opt) (mixed : Bool) : List Text → Option Words
  | [] => some ⟨[], []⟩
  | word :: rest =>
    if word = "--".toList then some ⟨[], rest⟩
    else if isOption word then
      match readWord? known word, rest with
      | none, _ => none
      | some ⟨options, none⟩, rest => (read? known mixed rest).map fun w => { w with options := options ++ w.options }
      | some ⟨_, some _⟩, [] => none
      | some ⟨options, some o⟩, value :: rest =>
        (read? known mixed rest).map fun w => { w with options := options ++ (o, value) :: w.options }
    else if mixed then (read? known mixed rest).map fun w => { w with arguments := word :: w.arguments }
    else some ⟨[], word :: rest⟩

end Words

end SourceMark
