/-
Sessions: one buffer that is marked, previewed and edited in steps. A session keeps the annotator in force, the
buffer, and the text on disk when it is known. A step that fails leaves the session as it was.

`length_run`: every step is reported.
-/
import SourceMark.Annotator

namespace SourceMark

structure Session where
  annotator : Annotator
  buffer : Text
  disk : Option Text

namespace Session

/-- what can be done with the buffer -/
inductive Step where
  | annotate (templateId : Text)
  | preview
  | configure (settings : Settings)
  | prepend (text : Text)
  | append (text : Text)
  | replace (old new : Text)
  | setDisk (disk : Option Text)
  | save

/-- what a step shows -/
inductive Report where
  | buffer (text : Text)
  | tags (found : List Candidate)
  | attributeName (name : Text)
  | disk (text : Option Text)

/-- a session with another buffer, and the report of it -/
def withBuffer (s : Session) (buffer : Text) : Session × Report :=
  ({ s with buffer }, .buffer buffer)

/-- a session with another text on disk, and the report of it -/
def withDisk (s : Session) (disk : Option Text) : Session × Report :=
  ({ s with disk }, .disk disk)

def step (s : Session) : Step → Except AnnotateError (Session × Report)
  | .annotate templateId =>
    (s.annotator.annotate s.buffer templateId s.disk).map fun annotated => s.withBuffer annotated.output
  | .preview => .ok (s, .tags (s.annotator.preview s.buffer s.disk))
  | .configure settings => .ok ({ s with annotator := .ofSettings settings }, .attributeName settings.attributeName)
  | .prepend text => .ok (s.withBuffer (text ++ s.buffer))
  | .append text => .ok (s.withBuffer (s.buffer ++ text))
  | .replace old new => .ok (s.withBuffer (Text.replaceAll old new s.buffer))
  | .setDisk disk => .ok (s.withDisk disk)
  | .save => .ok (s.withDisk (some s.buffer))

/-- what the steps show, in order -/
def run (s : Session) : List Step → List (Except AnnotateError Report)
  | [] => []
  | next :: rest =>
    match s.step next with
    | .ok (s', report) => .ok report :: s'.run rest
    | .error e => .error e :: s.run rest

theorem length_run (s : Session) (steps : List Step) : (s.run steps).length = steps.length := by
  induction steps generalizing s with
  | nil => rfl
  | cons next rest ih =>
    rw [run]
    split
    · rw [List.length_cons, List.length_cons, ih]
    · rw [List.length_cons, List.length_cons, ih]

end Session

end SourceMark
