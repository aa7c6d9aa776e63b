/-
Template ids: the path of a template below one of the roots, written with points for slashes and without the
extension. Roots are tried in order: the first one that contains a path names it, and the first one that has a file
for an id gives its path. An id whose segments could lead out of the root has no path.

`mem_segments?`: no segment of an id that has a path is empty or holds a slash or a backslash.
-/
import SourceMark.Files.Basic
import SourceMark.Path

namespace SourceMark.TemplateId

/-- the root without the separators at its end, unless it holds nothing else -/
def trimRoot (root : Text) : Text :=
  match Text.dropEnd (fun c => c == '/' || c == '\\') root with
  | [] => root
  | trimmed => trimmed

/-- the path below a root, when the root contains it -/
def below? (root path : Text) : Option Text :=
  if path = root then none
  else Text.dropHead? (if Text.endsWith ['/'] root then root else root ++ ['/']) path

/-- the name without the extension, or else without whatever extension it has -/
def dropExtension (extension name : Text) : Text :=
  if !extension.isEmpty && Text.endsWith extension name && extension.length < name.length then
    name.take (name.length - extension.length)
  else Path.dropExtension name

/-- the id of the template at a path; a path that no root contains gives only its last piece -/
def ofPath (path : Text) (roots : List Text) (extension : Text) : Text :=
  match roots.findSome? fun root => (below? (trimRoot root) path).filter (!·.isEmpty) with
  | some relative => (dropExtension extension relative).map fun c => if c = '/' then '.' else c
  | none => dropExtension extension (Path.baseName path)

/-- whether a segment of an id may be a piece of a path -/
def isPiece (segment : Text) : Bool :=
  !segment.isEmpty && !segment.contains '/' && !segment.contains '\\'

/-- the segments of an id, when all of them may be pieces of a path -/
def segments? (id : Text) : Option (List Text) :=
  let segments := Text.splitOn '.' id
  if segments.all isPiece then some segments else none

theorem mem_segments? {id segment : Text} {segments : List Text} (h : segments? id = some segments)
    (hmem : segment ∈ segments) :
    segment ≠ [] ∧ '/' ∉ segment ∧ '\\' ∉ segment := by
  simp only [segments?, Option.ite_none_right_eq_some, List.all_eq_true, Option.some.injEq] at h
  obtain ⟨hall, rfl⟩ := h
  have := hall segment hmem
  simp only [isPiece, Bool.and_eq_true, Bool.not_eq_true', List.isEmpty_eq_false_iff, List.contains_eq_mem,
    decide_eq_false_iff_not] at this
  exact ⟨this.1.1, this.1.2, this.2⟩

/-- the paths at which the template with an id may be, in the order of the roots -/
def candidates (id : Text) (roots : List Text) (extension : Text) : List Text :=
  match segments? id with
  | none => []
  | some segments => roots.map fun root => Path.join (trimRoot root) (Text.join ['/'] segments ++ extension)

/-- the path of the template with an id under the first root that has it -/
def toPath? (files : FileSystem) (id : Text) (roots : List Text) (extension : Text) : Option Text :=
  (candidates id roots extension).find? files.isFile

end SourceMark.TemplateId
