/-
Paths with their links followed. A path is followed piece by piece from the root or from the working directory; a link on
the way is followed in the same manner, and what it leads to takes its place. A link that is met again while it is being
followed is not followed further: the path is then left as it stands from there on.

`realPath` follows links as far as they lead. `resolve` also asks whether the path that comes out can be looked at, and
so notices links that never end.
-/
import SourceMark.Files.Basic
import SourceMark.Path

namespace SourceMark

inductive ResolveError where
  | nulInPath
  /-- links lead in a circle -/
  | endless (path : Text)
  /-- links lead on and on, each one inside the one before -/
  | tooDeep
  | unreadableLink (cause : FileFault) (path : Text)
  | noDirectory (cause : FileFault)
  deriving DecidableEq

def ResolveError.message : ResolveError → Text
  | .nulInPath => FileError.nulInPath.message
  | .endless path => "Symlink loop from ".toList ++ Text.quoted path
  | .tooDeep => "maximum recursion depth exceeded".toList
  | .unreadableLink cause path => cause.message path
  | .noDirectory cause => cause.words

/-- where a path is followed to: `complete` unless a link was met again, with the links met on the way and what each leads
to, or nothing while it is being followed -/
structure Trail where
  path : Text
  complete : Bool
  met : List (Text × Option Text)

namespace FileSystem

/-- the path above a path whose links are followed; what lies above two points is not known -/
def above (path : Text) : Text :=
  let name := Path.baseName path
  let front := path.take (path.length - name.length)
  let front := if front.all (· == '/') then front else Text.dropEnd (· == '/') front
  if path.isEmpty then Path.above
  else if name = Path.above then Path.joinAll front [Path.above, Path.above]
  else front

/-- goes on from a path by its next pieces; `enter` follows a link that stands at a path -/
def walk (files : FileSystem) (enter : Text → Text → List (Text × Option Text) → Except ResolveError Trail) :
    (path : Text) → List Text → List (Text × Option Text) → Except ResolveError Trail
  | path, [], met => .ok ⟨path, true, met⟩
  | path, name :: rest, met =>
    if name.isEmpty || name == Path.here then walk files enter path rest met
    else if name = Path.above then walk files enter (above path) rest met
    else
      let next := Path.join path name
      if next.contains nul then .error .nulInPath
      else
        match files.readLink next, met.lookup next with
        | .error cause, _ => .error (.unreadableLink cause next)
        | .ok none, _ => walk files enter next rest met
        | .ok (some _), some (some found) => walk files enter found rest met
        | .ok (some _), some none => .ok ⟨Path.join next (Text.join ['/'] rest), false, met⟩
        | .ok (some target), none =>
          match enter path target ((next, none) :: met) with
          | .error e => .error e
          | .ok inner =>
            if inner.complete then walk files enter inner.path rest ((next, some inner.path) :: inner.met)
            else .ok ⟨Path.join inner.path (Text.join ['/'] rest), false, inner.met⟩

/-- follows what is seen from a path, with at most `depth` links one inside the other -/
def follow (files : FileSystem) : (depth : Nat) → (path target : Text) → List (Text × Option Text) →
    Except ResolveError Trail
  | 0, _, _, _ => .error .tooDeep
  | depth + 1, path, target, met =>
    walk files (follow files depth) (if Path.isAbsolute target then ['/'] else path) (Text.splitOn '/' target) met

/-- the absolute path that a path leads to, as far as its links can be followed -/
def realPath (files : FileSystem) (path : Text) : Except ResolveError Text :=
  match follow files files.linkDepth [] path [] with
  | .error e => .error e
  | .ok trail =>
    if Path.isAbsolute trail.path then .ok (Path.normalize trail.path)
    else
      match files.directoryFault? with
      | some cause => .error (.noDirectory cause)
      | none => .ok (Path.absolute files.workingDirectory trail.path)

/-- the absolute path that a path leads to, when its links end -/
def resolve (files : FileSystem) (path : Text) : Except ResolveError Text :=
  match files.realPath (Path.tidy path) with
  | .error e => .error e
  | .ok found =>
    if found.contains nul then .error .nulInPath
    else if files.isEndless found then .error (.endless found)
    else .ok found

end FileSystem

end SourceMark
