/-
Running requests. A run depends on the console, on the files and on the environment variables, and comes to an outcome:
what is printed on either stream, the exit code, the file that is written, and the failure that stopped the run if one
did.
-/
import SourceMark.Command.Request
import SourceMark.Console.Table
import SourceMark.Files.Links
import SourceMark.Lookup
import SourceMark.Annotator
import SourceMark.Settings.Report

namespace SourceMark

/-- why nothing can be marked, be it the tags of a template or the line of an excerpt -/
inductive MarkError where
  | template (error : AnnotateError)
  | line (error : ExcerptError)

def MarkError.message : MarkError → Text
  | .template error => error.message
  | .line error => error.message

/-- what stops a run without a message of its own -/
inductive Failure where
  | unresolved (error : ResolveError)
  | file (error : FileError)
  | unmarked (error : MarkError)
  | unbalancedMarkup

def Failure.message : Failure → Text
  | .unresolved error => error.message
  | .file error => error.message
  | .unmarked error => error.message
  | .unbalancedMarkup => "a closing tag has nothing to close".toList

/-- what is printed on one of the streams: the screen that explains the use of the program, or a text -/
inductive Printed where
  | usage
  | text (text : Text)

structure Outcome where
  exitCode : Nat
  output : Printed := .text []
  errors : Printed := .text []
  written : Option (Text × Text) := none
  failure : Option Failure := none

namespace Command

def log (verbose : Bool) (events : List Event) : Text :=
  if verbose then
    events.flatMap fun event => "DEBUG ".toList ++ event.origin ++ ": ".toList ++ event.message ++ ['\n']
  else []

def coloured (colour : String) (markup : Text) : Text :=
  '[' :: colour.toList ++ ']' :: markup ++ "[/".toList ++ colour.toList ++ [']']

/-- the overrides that options stand for -/
def overrides (roots : List Text) (attributeName dialect extension : Option Text) (noComponents : Bool) :
    List (Text × Json) :=
  let given (f : Settings.Field) (value : Option Json) := value.toList.map fun value => (f.name, value)
  given .templateRoots (if roots.isEmpty then none else some (.array (roots.map .text))) ++
  given .attributeName (attributeName.map .text) ++ given .dialect (dialect.map .text) ++
  given .templateExtension (extension.map .text) ++
  given .markComponents (if noComponents then some (.bool false) else none)

/-- why a run has no settings: a root cannot be resolved, or the settings are not valid -/
inductive SetupError where
  | unresolved (error : ResolveError)
  | invalid (error : Settings.EnvironmentError)

/-- the settings that the environment and the options ask for; the roots are resolved first -/
def setUp (files : FileSystem) (env : Environment) (roots : List Text) (attributeName dialect extension : Option Text)
    (noComponents : Bool) : Except SetupError Settings :=
  match roots.mapM files.resolve with
  | .error e => .error (.unresolved e)
  | .ok roots =>
    (Settings.ofEnvironment env (overrides roots attributeName dialect extension noComponents)).mapError .invalid

/-- the outcome when a failure stops the run -/
def failed (failure : Failure) (logged : Text) : Outcome where
  exitCode := 1
  errors := .text logged
  failure := some failure

/-- the outcome when the program is not used as it can be -/
def misused : Outcome where
  exitCode := 2
  errors := .usage

def printed (text logged : Text) : Outcome where
  exitCode := 0
  output := .text text
  errors := .text logged

section Console

variable (console : Console)

/-- the outcome of telling what is wrong; a markup that closes a tag that is not open stops the run -/
def complaint (exitCode : Nat) (logged markup : Text) : Outcome :=
  if Markup.isBalanced markup then { exitCode, errors := .text (logged ++ console.print markup) }
  else failed .unbalancedMarkup logged

/-- the outcome of printing markups one after the other, up to the first that closes a tag that is not open -/
def printedInTurn (markups : List Text) : Outcome :=
  let balanced := markups.takeWhile Markup.isBalanced
  let output := .text (balanced.flatMap console.print)
  if balanced.length = markups.length then { exitCode := 0, output }
  else { failed .unbalancedMarkup [] with output }

def invalidSettings (message : Text) : Outcome :=
  complaint console 2 [] (coloured "red" "Invalid settings:".toList ++ ' ' :: Markup.escape message)

/-- the outcome when there are no settings; a root that holds a null character counts as an invalid setting, any other
root that cannot be resolved stops the run -/
def notSetUp : SetupError → Outcome
  | .invalid e => invalidSettings console e.message
  | .unresolved .nulInPath => invalidSettings console ResolveError.nulInPath.message
  | .unresolved e => failed (.unresolved e) []

/-- runs something on the text of a template, with the settings that the environment and the options ask for -/
def withTemplate (files : FileSystem) (env : Environment) (o : TemplateOptions)
    (body : Settings → (path source : Text) → Outcome) : Outcome :=
  match files.realPath o.path with
  | .error e => failed (.unresolved e) []
  | .ok path =>
    if files.isFile path then
      match setUp files env o.roots o.attributeName o.dialect o.extension o.noComponents with
      | .error e => notSetUp console e
      | .ok settings =>
        match files.readText path with
        | .error e => failed (.file e) []
        | .ok source => body settings path source
    else misused

/-- the outcome of writing a marked template to a file -/
def save (files : FileSystem) (path text logged : Text) : Outcome :=
  let path := Path.tidy path
  match files.writeError? path with
  | some e => failed (.file e) logged
  | none =>
    let note := coloured "green" "Wrote".toList ++ ' ' :: path
    if Markup.isBalanced note then
      { exitCode := 0, errors := .text (logged ++ console.print note), written := some (path, text) }
    else { failed .unbalancedMarkup logged with written := some (path, text) }

/-- the id of a template: the given one unless it is empty, or else the one of its path -/
def templateIdOf (settings : Settings) (path : Text) : Option Text → Text
  | none | some [] => TemplateId.ofPath path settings.templateRoots settings.templateExtension
  | some id => id

/-- marks a template and prints or writes it -/
def runAnnotate (files : FileSystem) (env : Environment) (verbose : Bool) (o : TemplateOptions)
    (templateId output : Option Text) : Outcome :=
  withTemplate console files env o fun settings path source =>
    match (Annotator.ofSettings settings).annotate source (templateIdOf settings path templateId) (some source) with
    | .error e => failed (.unmarked (.template e)) []
    | .ok annotated =>
      let logged := log verbose annotated.events
      match output with
      | none => printed annotated.output logged
      | some target => save console files target annotated.output logged

/-- whether and why a candidate is left alone, as the table shows it -/
def status (c : Candidate) : Text :=
  if c.isMarked then coloured "dim" "annotated".toList
  else if c.isUnsafe then coloured "red" "unsafe".toList
  else coloured "green" "annotate".toList

/-- the table of candidates, and how many there are -/
def overview (found : List Candidate) : Text :=
  let row (c : Candidate) :=
    [Text.decimal c.line, Markup.escape c.tag.name, status c, Markup.escape ((c.reason.map Reason.message).getD [])]
  let table : Table := ⟨["line".toList, "tag".toList, "status".toList, "reason".toList], found.map row⟩
  table.draw ++ console.print ('(' :: Text.decimal found.length ++ " tags, ".toList ++
    Text.decimal (found.countP (·.isEligible)) ++ " to annotate)".toList)

def runPreview (files : FileSystem) (env : Environment) (verbose : Bool) (o : TemplateOptions) : Outcome :=
  withTemplate console files env o fun settings _ source =>
    let annotator := Annotator.ofSettings settings
    printed (overview console (annotator.preview source (some source)))
      (log verbose (annotator.previewEvents source (some source)))

def runEncode (templateId : Text) (line : Int) : Outcome :=
  match Reference.ofFields (some (.text templateId)) (some (.int line)) with
  | .ok r => printed (r.token ++ ['\n']) []
  | .error _ => complaint console 2 [] (coloured "red" "Template id must not be empty and line must be >= 1.".toList)

/-- the outcome when a token holds no reference -/
def invalidReference : Outcome :=
  complaint console 1 [] (coloured "red" LookupError.invalidReference.message)

def runDecode (token : Text) : Outcome :=
  match Token.read? token with
  | some r => printed (r.toJson.render ++ ['\n']) []
  | none => invalidReference console

/-- the number of a line of an excerpt, which takes as much room as the last one -/
def gutter (e : Excerpt) (number : Nat) : Text :=
  let digits := Text.decimal number
  List.replicate ((Text.decimal e.endLine).length - digits.length) ' ' ++ digits

/-- one line of an excerpt with its number, as markup -/
def rowMarkup (e : Excerpt) (number : Nat) (text : Text) : Text :=
  if number = e.line then coloured "yellow" (gutter e number ++ " > ".toList ++ Markup.escape text)
  else gutter e number ++ "   ".toList ++ Markup.escape text

/-- the place that a token leads to, as markup -/
def placeMarkup (located : Located) : Text :=
  coloured "bold" (Markup.escape located.path) ++ ':' :: Text.decimal located.reference.line ++
    " (".toList ++ Markup.escape located.reference.templateId ++ [')']

/-- an excerpt under the place that it shows, as markup -/
def excerptMarkups (located : Located) (e : Excerpt) : List Text :=
  placeMarkup located :: (e.lines.zipIdx e.startLine).map fun (text, number) => rowMarkup e number text

/-- the outcome when a token leads to a file but to no excerpt; a file that cannot be read as text is told -/
def unreadable (located : Located) (error : ExcerptError) : Outcome :=
  match error with
  | .lineBelowOne _ | .contextBelowZero _ => failed (.unmarked (.line error)) []
  | .unreadable .nulInPath => failed (.file .nulInPath) []
  | .unreadable _ =>
    complaint console 2 [] (coloured "red" ("Could not read ".toList ++ Markup.escape located.path ++ [':']) ++
      ' ' :: Markup.escape error.message)

/-- shows the place that a token leads to -/
def runLocate (files : FileSystem) (env : Environment) (verbose : Bool) (token : Text) (roots : List Text)
    (extension : Option Text) (context : Nat) : Outcome :=
  match setUp files env roots none none extension false with
  | .error e => notSetUp console e
  | .ok settings =>
    match lookup files (.text token) settings.templateRoots settings.templateExtension with
    | .error .invalidReference => invalidReference console
    | .error (.notFound id) =>
      let error := LookupError.notFound id
      complaint console 2 (log verbose (error.event? settings.templateRoots.length).toList)
        (coloured "red" (Markup.escape error.message))
    | .ok located =>
      match Excerpt.ofFile files located.path located.reference.line context with
      | .error e => unreadable console located e
      | .ok e => printedInTurn console (excerptMarkups located e)

def run (files : FileSystem) (env : Environment) (verbose : Bool) : Command → Outcome
  | .annotate options templateId output => runAnnotate console files env verbose options templateId output
  | .preview options => runPreview console files env verbose options
  | .encode templateId line => runEncode console templateId line
  | .decode token => runDecode console token
  | .locate token roots extension context => runLocate console files env verbose token roots extension context

end Console

/-! ## What a command looks at -/

/-- the paths that a command resolves -/
def resolved : Command → List Text
  | .annotate options _ _ | .preview options => options.path :: options.roots
  | .locate _ roots _ _ => roots
  | .encode .. | .decode .. => []

/-- the files that a command may read -/
def paths (files : FileSystem) (env : Environment) : Command → List Text
  | .annotate options _ _ | .preview options => (files.realPath options.path).toOption.toList
  | .locate token roots extension _ =>
    match setUp files env roots none none extension false, Token.read? token with
    | .ok settings, some r =>
      (TemplateId.candidates r.templateId settings.templateRoots settings.templateExtension).flatMap fun path =>
        [path, Path.tidy path]
    | _, _ => []
  | .encode .. | .decode .. => []

end Command

def Request.resolved : Request → List Text
  | .command _ understood => understood.resolved
  | _ => []

def Request.paths (files : FileSystem) (env : Environment) : Request → List Text
  | .command _ understood => understood.paths files env
  | _ => []

/-- runs what a command line asks for -/
def Request.outcome (console : Console) (files : FileSystem) (env : Environment) : Request → Outcome
  | .overview => { exitCode := 2, output := .usage }
  | .help => { exitCode := 0, output := .usage }
  | .misuse => Command.misused
  | .command verbose understood => understood.run console files env verbose

end SourceMark
