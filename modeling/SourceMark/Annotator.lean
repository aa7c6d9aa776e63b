/-
The annotator marks the tags of a template. It makes one pass for the plain tags and, unless settings say otherwise, a
second one over the outcome of the first for the component tags. In a pass every tag that the pass selects is a
candidate: it is marked unless it already carries the marker's attribute or is unsafe.

`preview` lists the candidates of both passes without marking any. `build_eq_ok`: every settings value gives a
scanner.
-/
import SourceMark.Event
import SourceMark.Line
import SourceMark.Marker
import SourceMark.Settings.Basic
import SourceMark.Token

namespace SourceMark

/-- a tag that a pass selects, its line on disk, and why it is left alone if it is -/
structure Candidate where
  tag : Tag
  line : Nat
  reason : Option Reason
  line_pos : 0 < line

namespace Candidate

def isEligible (c : Candidate) : Bool :=
  c.reason.isNone

/-- whether a candidate is left alone because it already has a marker -/
def isMarked (c : Candidate) : Bool :=
  c.reason == some .alreadyMarked

/-- whether a candidate is left alone because it is unsafe -/
def isUnsafe (c : Candidate) : Bool :=
  !c.isEligible && !c.isMarked

/-- the event of a candidate that is left alone -/
def event? (c : Candidate) : Option Event :=
  c.reason.map (.skipped c.tag.name c.line ·)

end Candidate

/-- settings with the scanner that they ask for -/
structure Annotator where
  settings : Settings
  scanner : Scanner

inductive AnnotateError where
  | emptyTemplateId
  deriving DecidableEq

def AnnotateError.message : AnnotateError → Text
  | .emptyTemplateId => "template_id must not be empty".toList

/-- why a template is not marked under an id from outside: the id is unfit, or no reference can be made with it -/
inductive RefusedId where
  | unfit (error : AnnotateError)
  | invalidReference (errors : List FieldError)

/-- a marked template, and what happened on the way -/
structure Annotated where
  output : Text
  events : List Event

inductive Pass where
  | plain
  | component
  deriving DecidableEq

namespace Annotator

def ofSettings (s : Settings) : Annotator :=
  ⟨s, ⟨s.dialect, s.componentPrefix, s.targetTags⟩⟩

theorem build_eq_ok (s : Settings) :
    Scanner.build s.dialect (some s.componentPrefix) s.targetTags = .ok (ofSettings s).scanner := by
  have := s.componentPrefix_ne
  simp [Scanner.build, ofSettings, this]

def passes (a : Annotator) : List Pass :=
  if a.settings.markComponents then [.plain, .component] else [.plain]

def isPlain (a : Annotator) (name : Text) : Bool :=
  a.settings.targetTags.contains (Text.lower name)

/-- whether a tag name is a component name: the prefix with something behind it -/
def isComponent (a : Annotator) (name : Text) : Bool :=
  (Scanner.dropLetters? a.settings.componentPrefix name).any fun rest => !rest.isEmpty && rest.all Dialect.isNameChar

def selects (a : Annotator) : Pass → Text → Bool
  | .plain => a.isPlain
  | .component => a.isComponent

/-- why a tag is left alone, if it is -/
def reason? (a : Annotator) (t : Tag) : Option Reason :=
  if Text.occursIn a.settings.attributeName t.attributes then some .alreadyMarked
  else
    match a.settings.dialect.hazard? t.text with
    | some hazard => some (.unsafeCode hazard)
    | none => if t.nestedGt then some .nestedGt else none

/-- the candidate that a tag of `buffer` is -/
def candidate (a : Annotator) (buffer : Text) (disk : Option Text) (t : Tag) : Candidate :=
  ⟨t, Line.resolve t.text t.start buffer disk, a.reason? t, Line.resolve_pos _ _ _ _⟩

/-- the candidates of a pass, left to right -/
def candidates (a : Annotator) (pass : Pass) (buffer : Text) (disk : Option Text) : List Candidate :=
  ((a.scanner.scan buffer).filter fun t => a.selects pass t.name).map (a.candidate buffer disk)

/-- the tag of a candidate with its marker -/
def mark (a : Annotator) (templateId : Text) (templateId_ne : templateId ≠ []) (c : Candidate) : Text :=
  let reference : Reference := ⟨templateId, c.line, templateId_ne, c.line_pos⟩
  Marker.insert (Marker.text a.settings.attributeName reference.token) c.tag

/-- the text from `cursor` on with the eligible candidates marked -/
def splice (a : Annotator) (templateId : Text) (templateId_ne : templateId ≠ []) (cursor : Nat) (text : Text) :
    List Candidate → Text
  | [] => text
  | c :: rest =>
    if c.isEligible then
      text.take (c.tag.start - cursor) ++ a.mark templateId templateId_ne c ++
        a.splice templateId templateId_ne c.tag.stop (text.drop (c.tag.stop - cursor)) rest
    else a.splice templateId templateId_ne cursor text rest

/-- what the passes have come to: the buffer, how many tags were marked and how many left alone, and the events -/
structure Progress where
  buffer : Text
  marked : Nat
  skipped : Nat
  events : List Event

def Progress.step (a : Annotator) (templateId : Text) (templateId_ne : templateId ≠ []) (disk : Option Text)
    (p : Progress) (pass : Pass) : Progress :=
  let found := a.candidates pass p.buffer disk
  { buffer := a.splice templateId templateId_ne 0 p.buffer found
    marked := p.marked + found.countP (·.isEligible)
    skipped := p.skipped + found.countP (!·.isEligible)
    events := p.events ++ found.filterMap (·.event?) }

/-- a template with its tags marked; `disk` is the file's text when it is known -/
def annotate (a : Annotator) (source templateId : Text) (disk : Option Text) : Except AnnotateError Annotated :=
  if h : templateId ≠ [] then
    let p := a.passes.foldl (Progress.step a templateId h disk) ⟨source, 0, 0, []⟩
    .ok ⟨p.buffer, p.events ++ [.finished templateId p.marked p.skipped]⟩
  else .error .emptyTemplateId

/-- what the passes have come to as the marked template, told under its id -/
def Progress.finish (p : Progress) (templateId : Text) : Annotated :=
  ⟨p.buffer, p.events ++ [.finished templateId p.marked p.skipped]⟩

/-- goes on with one pass under an id that is no text; it is refused where the first tag is to be marked -/
def Progress.stepRefused (a : Annotator) (disk : Option Text) (p : Progress) (pass : Pass) :
    Except RefusedId Progress :=
  let found := a.candidates pass p.buffer disk
  if found.any (·.isEligible) then .error (.invalidReference [⟨Reference.templateIdField, none, .notUnicode⟩])
  else .ok { p with skipped := p.skipped + found.length, events := p.events ++ found.filterMap (·.event?) }

/-- what the passes over a template come to under an id from outside -/
def annotateRaw (a : Annotator) (source : Text) (templateId : RawText) (disk : Option Text) :
    Except RefusedId Progress :=
  match templateId.toText? with
  | none => a.passes.foldlM (Progress.stepRefused a disk) ⟨source, 0, 0, []⟩
  | some id =>
    if h : id ≠ [] then .ok (a.passes.foldl (Progress.step a id h disk) ⟨source, 0, 0, []⟩)
    else .error (.unfit .emptyTemplateId)

/-- the candidates of all passes over the source as it is, each tag once, left to right -/
def preview (a : Annotator) (source : Text) (disk : Option Text) : List Candidate :=
  let found := a.passes.foldl (fun found pass =>
    found ++ (a.candidates pass source disk).filter fun c => found.all (·.tag.start != c.tag.start)) []
  found.mergeSort fun c d => c.tag.start ≤ d.tag.start

def previewEvents (a : Annotator) (source : Text) (disk : Option Text) : List Event :=
  a.passes.flatMap fun pass => (a.candidates pass source disk).filterMap (·.event?)

end Annotator

end SourceMark
