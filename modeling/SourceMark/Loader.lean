/-
The loader: it finds templates in its search directories and marks them as they are loaded. It keeps the annotator
that it used last, also when that refused a template, and makes a new one when it was made for other settings. Settings
are told apart by when they came into force, not by what they say.

`annotatorFor_keep`: an annotator that is kept is the one that is used next.
-/
import SourceMark.Annotator
import SourceMark.TemplateId

namespace SourceMark

/-- a loader: where it looks for templates, the settings in force and how many were in force before them, and the
annotator that was used last with the number of the settings that it was made for -/
structure Loader where
  searchPath : List Text
  settings : Settings
  generation : Nat
  annotator? : Option (Nat × Annotator)

inductive LoadError where
  /-- a name that leads out of the search directories -/
  | forbiddenName (name : Text)
  | notFound (name : Text) (searchPath : List Text)
  | unreadable (error : FileError)
  | unmarked (error : AnnotateError)
  deriving DecidableEq

def LoadError.message : LoadError → Text
  | .forbiddenName name => name
  | .notFound name searchPath =>
    Text.quoted name ++ " not found in search path".toList ++ (if searchPath.length = 1 then [] else ['s']) ++
      ": ".toList ++ Text.join ", ".toList (searchPath.map Text.quoted)
  | .unreadable error => error.message
  | .unmarked error => error.message

namespace Loader

def defaultSettings : Settings :=
  { Settings.standard with
    language := .jinja
    templateExtension := ".html".toList
    head?_templateExtension := rfl }

def start (searchPath : List Text) : Loader :=
  ⟨searchPath, defaultSettings, 0, none⟩

def configure (loader : Loader) (settings : Settings) : Loader :=
  { loader with settings, generation := loader.generation + 1, annotator? := none }

/-- the annotator for the settings in force: the one used last when it was made for them, otherwise a new one -/
def annotatorFor (loader : Loader) : Annotator :=
  match loader.annotator? with
  | none => .ofSettings loader.settings
  | some (generation, a) => if generation = loader.generation then a else .ofSettings loader.settings

/-- the loader behind the use of its annotator -/
def keep (loader : Loader) : Loader :=
  { loader with annotator? := some (loader.generation, loader.annotatorFor) }

theorem annotatorFor_keep (loader : Loader) : loader.keep.annotatorFor = loader.annotatorFor := by
  simp [keep, annotatorFor]

/-- the directories that template ids are taken from: the template roots, or else the search directories -/
def roots (loader : Loader) (files : FileSystem) : List Text :=
  if loader.settings.templateRoots.isEmpty then loader.searchPath.map (Path.absolute files.workingDirectory)
  else loader.settings.templateRoots

/-- the text of a file, when it has one; a path with a null character is refused -/
def diskText (files : FileSystem) (path : Text) : Except LoadError (Option Text) :=
  match files.readText path with
  | .ok text => .ok (some text)
  | .error .nulInPath => .error (.unreadable .nulInPath)
  | .error _ => .ok none

/-- a template's source with its tags marked, and the loader after that; a source without a file stays as it is -/
def preprocess (loader : Loader) (files : FileSystem) (source : Text) (fileName : Option Text) :
    Except LoadError Text × Loader :=
  match fileName with
  | none | some [] => (.ok source, loader)
  | some (c :: rest) =>
    if loader.settings.enabled then
      let path := Path.absolute files.workingDirectory (c :: rest)
      let templateId := TemplateId.ofPath path (loader.roots files) loader.settings.templateExtension
      match diskText files path with
      | .error e => (.error e, loader)
      | .ok disk =>
        match loader.annotatorFor.annotate source templateId disk with
        | .error e => (.error (.unmarked e), loader.keep)
        | .ok annotated => (.ok annotated.output, loader.keep)
    else (.ok source, loader)

/-- the paths at which a template may be, in the order of the search directories; none when its name leads out of them
-/
def candidates? (loader : Loader) (name : Text) : Option (List Text) :=
  if (Text.splitOn '/' name).contains Path.above then none
  else some (loader.searchPath.map fun directory => Path.joinAll directory (Path.pieces name))

def find (loader : Loader) (files : FileSystem) (name : Text) : Except LoadError Text :=
  match loader.candidates? name with
  | none => .error (.forbiddenName name)
  | some paths =>
    match paths.find? files.isFile with
    | none => .error (.notFound name loader.searchPath)
    | some path => .ok path

/-- the marked text of the template with a name, and the loader after that -/
def load (loader : Loader) (files : FileSystem) (name : Text) : Except LoadError Text × Loader :=
  match loader.find files name with
  | .error e => (.error e, loader)
  | .ok path =>
    match files.readText path with
    | .error e => (.error (.unreadable e), loader)
    | .ok source => loader.preprocess files source (some path)

/-! ## Histories -/

/-- what can happen to a loader -/
inductive Step where
  | configure (settings : Settings)
  /-- the files are from now on as told -/
  | changeFiles (files : FileSystem)
  | load (name : Text)
  | preprocess (source : Text) (fileName : Option Text)

/-- a loader with the files it works on -/
structure State where
  loader : Loader
  files : FileSystem

/-- the state with what is left of the loader, and the text that was made -/
def State.after (s : State) (result : Except LoadError Text × Loader) : State × Option (Except LoadError Text) :=
  ({ s with loader := result.2 }, some result.1)

/-- one step: the state behind it, and what it gives if it gives anything -/
def State.step (s : State) : Step → State × Option (Except LoadError Text)
  | .configure settings => ({ s with loader := s.loader.configure settings }, none)
  | .changeFiles files => ({ s with files }, none)
  | .load name => s.after (s.loader.load s.files name)
  | .preprocess source fileName => s.after (s.loader.preprocess s.files source fileName)

end Loader

end SourceMark
