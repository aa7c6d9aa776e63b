/-
A tree of files, held as the list of its files and directories. Directories above an entry need not be listed. A path
is followed piece by piece from the working directory or from the root; only from a directory does it go on.

`at?_put`: what was put at a place is found there.
-/
import SourceMark.Files.Basic
import SourceMark.Path

namespace SourceMark

/-- what stands at a place of a tree -/
inductive Entry where
  | file (content : Bytes)
  | directory
  deriving DecidableEq

/-- a tree of files; a place is the list of names that leads to it from the root -/
structure FileTree where
  workingDirectory : List Text
  entries : List (List Text × Entry)

namespace FileTree

def at? (tree : FileTree) (place : List Text) : Option Entry :=
  (tree.entries.lookup place).or <|
    if place.isPrefixOf tree.workingDirectory || tree.entries.any fun entry => place.isPrefixOf entry.1 then
      some .directory
    else none

def put (tree : FileTree) (place : List Text) (entry : Entry) : FileTree :=
  { tree with entries := (place, entry) :: tree.entries.filter fun other => other.1 != place }

theorem at?_put (tree : FileTree) (place : List Text) (entry : Entry) :
    (tree.put place entry).at? place = some entry := by
  simp [put, at?]

def maxName : Nat := 255

def maxPath : Nat := 4095

/-- goes on from a place by one piece of a path -/
def step (tree : FileTree) (place : List Text) (piece : Text) : Except FileFault (List Text) :=
  match tree.at? place with
  | none => .error .notFound
  | some (.file _) => .error .notDirectory
  | some .directory =>
    if piece.isEmpty || piece == Path.here then .ok place
    else if piece = Path.above then .ok place.dropLast
    else if maxName < (Utf8.encode piece).length then .error .nameTooLong
    else .ok (place ++ [piece])

/-- the place that a path leads to; its last piece need not exist -/
def place (tree : FileTree) (path : Text) : Except FileFault (List Text) :=
  if path.isEmpty then .error .notFound
  else if maxPath < (Utf8.encode path).length then .error .nameTooLong
  else (Text.splitOn '/' path).foldlM tree.step (if Path.isAbsolute path then [] else tree.workingDirectory)

def read (tree : FileTree) (path : Text) : Except FileFault Bytes :=
  match tree.place path with
  | .error fault => .error fault
  | .ok place =>
    match tree.at? place with
    | none => .error .notFound
    | some .directory => .error .isDirectory
    | some (.file content) => .ok content

def isFile (tree : FileTree) (path : Text) : Bool :=
  !path.contains nul && (tree.read path).isOk

/-- why the file at a path cannot be written, if it cannot -/
def writeFault? (tree : FileTree) (path : Text) : Option FileFault :=
  match tree.place path with
  | .error fault => some fault
  | .ok place => if tree.at? place = some .directory then some .isDirectory else none

/-- the tree after a file was written, or as it is when that is not possible -/
def write (tree : FileTree) (path : Text) (content : Bytes) : FileTree :=
  match tree.place path, tree.writeFault? path with
  | .ok place, none => tree.put place (.file content)
  | _, _ => tree

def toFileSystem (tree : FileTree) : FileSystem where
  workingDirectory := '/' :: Text.join ['/'] tree.workingDirectory
  isFile := tree.isFile
  read := tree.read
  writeFault? := tree.writeFault?
  isFile_nul := by
    intro path h
    simp [isFile, h]

/-- the files that `later` has below the working directory and `earlier` has not or has with another content, by their
paths from there -/
def changes (earlier later : FileTree) : List (Text × Bytes) :=
  later.entries.filterMap fun (place, entry) =>
    match entry with
    | .directory => none
    | .file content =>
      if later.workingDirectory.isPrefixOf place && earlier.entries.lookup place != some (.file content) then
        some (Text.join ['/'] (place.drop later.workingDirectory.length), content)
      else none

end FileTree

end SourceMark
