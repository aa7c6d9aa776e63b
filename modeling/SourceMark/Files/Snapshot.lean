/-
Files and links as they were found at some paths. A file that could not be read is still a file when only the permission
was missing.
-/
import SourceMark.Files.Basic
import SourceMark.Path

namespace SourceMark

/-- what was found at some paths -/
abbrev Snapshot := List (Text × Except FileFault Bytes)

namespace Snapshot

def read (s : Snapshot) (path : Text) : Except FileFault Bytes :=
  (s.lookup path).getD (.error .notFound)

def isFile (s : Snapshot) (path : Text) : Bool :=
  !path.contains nul &&
    match s.read path with
    | .ok _ => true
    | .error cause => cause == .permissionDenied

/-- the files of a snapshot, seen from a directory; that a file cannot be written shows only when it is written -/
def toFileSystem (s : Snapshot) (workingDirectory : Text) : FileSystem where
  workingDirectory := workingDirectory
  isFile := s.isFile
  read := s.read
  writeFault? := fun _ => none
  isFile_nul := by
    intro path h
    simp [isFile, h]

end Snapshot

/-- what was found of links: the absolute paths at which links stand with those that they lead to, and the paths at which
links stand that never end -/
structure FoundLinks where
  targets : List (Text × Text) := []
  endless : List Text := []

/-- the files with the links that were found -/
def FileSystem.withLinks (files : FileSystem) (found : FoundLinks) : FileSystem :=
  { files with
    readLink := fun path =>
      let path := Path.absolute files.workingDirectory path
      .ok ((found.targets.lookup path).or (found.endless.find? (· == path)))
    isEndless := fun path => found.endless.any fun link => link == path || (link ++ ['/']).isPrefixOf path }

end SourceMark
