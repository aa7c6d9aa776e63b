/-
Requests: what a command line asks for. A line that asks for help, or that the program cannot understand, shows a
screen and runs nothing. Help counts before arguments are looked at, but not before the options are understood.
-/
import SourceMark.Command.Options
import SourceMark.Excerpt
import SourceMark.Text.Digits

namespace SourceMark

/-- the options that change settings, and the template to work on -/
structure TemplateOptions where
  path : Text
  roots : List Text
  attributeName : Option Text
  dialect : Option Text
  extension : Option Text
  noComponents : Bool

inductive Command where
  | annotate (options : TemplateOptions) (templateId output : Option Text)
  | preview (options : TemplateOptions)
  | encode (templateId : Text) (line : Int)
  | decode (token : Text)
  | locate (token : Text) (roots : List Text) (extension : Option Text) (context : Nat)

/-- what a command line asks for -/
inductive Request where
  | overview
  | help
  | misuse
  | command (verbose : Bool) (command : Command)

namespace Request

/-- the options before a command -/
def programOptions : List Opt :=
  [.verbose, .help]

/-- the options of commands that work on a template -/
def templateOptions : List Opt :=
  [.root, .attributeName, .dialect, .extension, .noComponents, .help]

/-- the options and the template that the words of a command name -/
def templateOf (w : Words) (path : Text) : TemplateOptions where
  path := path
  roots := w.values .root
  attributeName := w.value? .attributeName
  dialect := w.value? .dialect
  extension := w.value? .extension
  noComponents := w.has .noComponents

/-- how many lines of context are asked for -/
def contextOf? (w : Words) : Option Nat :=
  match w.value? .context with
  | none => some Excerpt.defaultContext
  | some text => (Text.typedInteger? text).bind fun n => if 0 ≤ n then some n.toNat else none

/-- a command: its options, and how its words are understood once they are read -/
structure Form where
  known : List Opt
  understand? : Words → Option Command

def forms : List (Text × Form) := [
  ("instrument".toList, ⟨templateOptions ++ [.templateId, .output], fun w =>
    match w.arguments with
    | [path] => some (.annotate (templateOf w path) (w.value? .templateId) (w.value? .output))
    | _ => none⟩),
  ("scan".toList, ⟨templateOptions, fun w =>
    match w.arguments with
    | [path] => some (.preview (templateOf w path))
    | _ => none⟩),
  ("encode".toList, ⟨[.help], fun w =>
    match w.arguments with
    | [templateId, line] => (Text.typedInteger? line).map (.encode templateId)
    | _ => none⟩),
  ("decode".toList, ⟨[.help], fun w =>
    match w.arguments with
    | [token] => some (.decode token)
    | _ => none⟩),
  ("locate".toList, ⟨[.root, .extension, .context, .help], fun w =>
    match w.arguments with
    | [token] => (contextOf? w).map (.locate token (w.values .root) (w.value? .extension))
    | _ => none⟩)]

def ofForm (verbose : Bool) (form : Form) (words : List Text) : Request :=
  match Words.read? form.known true words with
  | none => .misuse
  | some w =>
    if w.has .help then .help
    else
      match form.understand? w with
      | none => .misuse
      | some understood => .command verbose understood

def ofWords : List Text → Request
  | [] => .overview
  | word :: words =>
    match Words.read? programOptions false (word :: words) with
    | none => .misuse
    | some w =>
      if w.has .help then .help
      else
        match w.arguments with
        | [] => .misuse
        | name :: rest =>
          match forms.lookup name with
          | none => .misuse
          | some form => ofForm (w.has .verbose) form rest

end Request

end SourceMark
