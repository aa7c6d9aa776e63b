/-
Paths as texts, with slashes between their pieces. `normalize` and `tidy` bring a path to a standard form: both drop
empty pieces and single points, and `normalize` lets two points cancel the piece before them without looking at any
file.
-/
import SourceMark.Text.Basic

namespace SourceMark.Path

def isAbsolute (path : Text) : Bool :=
  path.head? == some '/'

/-- `path` seen from `directory` -/
def join (directory path : Text) : Text :=
  if isAbsolute path || directory.isEmpty then path
  else if Text.endsWith ['/'] directory then directory ++ path
  else directory ++ '/' :: path

/-- the pieces of a path joined in order, the first one seen from `directory` -/
def joinAll (directory : Text) (pieces : List Text) : Text :=
  pieces.foldl join directory

def baseName (path : Text) : Text :=
  (path.reverse.takeWhile (· != '/')).reverse

/-- the path without its last point and what follows it, if that point is in the last piece and not among the points at
its head -/
def dropExtension (path : Text) : Text :=
  let base := baseName path
  let extension := base.reverse.takeWhile (· != '.')
  let stem := base.take (base.length - extension.length - 1)
  if base.contains '.' && stem.any (· != '.') then path.take (path.length - extension.length - 1) else path

/-! ## Standard forms -/

/-- the slashes at the head of a path in standard form: two slashes stay two, more become one -/
def root : Text → Text
  | '/' :: '/' :: '/' :: _ => ['/']
  | '/' :: '/' :: _ => ['/', '/']
  | '/' :: _ => ['/']
  | _ => []

/-- a point, which stands for the directory it is in -/
def here : Text := ['.']

/-- two points, which stand for the directory above -/
def above : Text := ['.', '.']

def pieces (path : Text) : List Text :=
  (Text.splitOn '/' path).filter fun piece => !piece.isEmpty && piece != here

/-- goes on from the pieces before, the last one first; two points take the last piece away if there is one to take -/
def push (absolute : Bool) (before : List Text) (piece : Text) : List Text :=
  if piece = above then
    match before with
    | [] => if absolute then [] else [piece]
    | last :: rest => if last = above then piece :: before else rest
  else piece :: before

/-- the path of a root and pieces; the empty path is written as a point -/
def ofPieces (root : Text) (pieces : List Text) : Text :=
  let path := root ++ Text.join ['/'] pieces
  if path.isEmpty then here else path

/-- the path without empty pieces, points and pairs of points that can be cancelled -/
def normalize (path : Text) : Text :=
  ofPieces (root path) ((pieces path).foldl (push (isAbsolute path)) []).reverse

/-- the path without empty pieces and points -/
def tidy (path : Text) : Text :=
  ofPieces (root path) (pieces path)

/-- the absolute path of a path that is seen from `directory` -/
def absolute (directory path : Text) : Text :=
  normalize (join directory path)

end SourceMark.Path
