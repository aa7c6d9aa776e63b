/-
Files as the program sees them: which paths are files, what a file holds, whether a file can be written, and where links
lead. Nothing is assumed about them but that no file has a null character in its path.

`readText` reads a file as UTF-8 text with every line end as one line feed.
-/
import SourceMark.Bytes.Utf8
import SourceMark.Text.Quoted

namespace SourceMark

/-- why a file cannot be used: the number and the words of the cause -/
structure FileFault where
  number : Nat
  description : Text
  deriving DecidableEq

namespace FileFault

def notFound : FileFault := ⟨2, "No such file or directory".toList⟩

/-- a piece before the last one is no directory -/
def notDirectory : FileFault := ⟨20, "Not a directory".toList⟩

def permissionDenied : FileFault := ⟨13, "Permission denied".toList⟩

def isDirectory : FileFault := ⟨21, "Is a directory".toList⟩

def nameTooLong : FileFault := ⟨36, "File name too long".toList⟩

def words (fault : FileFault) : Text :=
  "[Errno ".toList ++ Text.decimal fault.number ++ "] ".toList ++ fault.description

def message (fault : FileFault) (path : Text) : Text :=
  fault.words ++ ": ".toList ++ Text.quoted path

end FileFault

def nul : Char := '\x00'

/-- the files as the program sees them -/
structure FileSystem where
  /-- the directory that relative paths are seen from -/
  workingDirectory : Text
  isFile : Text → Bool
  read : Text → Except FileFault Bytes
  /-- why the file at a path cannot be written, if it cannot -/
  writeFault? : Text → Option FileFault
  /-- why the working directory cannot be told, if it cannot -/
  directoryFault? : Option FileFault := none
  /-- where the link at a path leads, if there is a link -/
  readLink : Text → Except FileFault (Option Text) := fun _ => .ok none
  /-- whether the links on the way along a path never end -/
  isEndless : Text → Bool := fun _ => false
  /-- how many links can be followed one inside the other -/
  linkDepth : Nat := 900
  isFile_nul : ∀ path, nul ∈ path → isFile path = false

/-- why a file cannot be read as text or cannot be written -/
inductive FileError where
  | nulInPath
  | fault (cause : FileFault) (path : Text)
  | notUtf8 (error : Utf8.DecodeError)
  deriving DecidableEq

def FileError.message : FileError → Text
  | .nulInPath => "embedded null byte".toList
  | .fault cause path => cause.message path
  | .notUtf8 error => error.message

namespace FileSystem

def readText (files : FileSystem) (path : Text) : Except FileError Text :=
  if path.contains nul then .error .nulInPath
  else
    match files.read path with
    | .error cause => .error (.fault cause path)
    | .ok bytes =>
      match Utf8.decode bytes with
      | .error error => .error (.notUtf8 error)
      | .ok text => .ok (Text.unifyNewlines text)

/-- why the file at a path cannot be written, if it cannot -/
def writeError? (files : FileSystem) (path : Text) : Option FileError :=
  if path.contains nul then some .nulInPath else (files.writeFault? path).map (.fault · path)

end FileSystem

end SourceMark
