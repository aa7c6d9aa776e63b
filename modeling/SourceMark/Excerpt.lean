/-
Excerpts: the lines of a file around one of its lines. The window reaches `context` lines to either side and is cut at
the ends of the file; for a line past the end it ends with the last line and holds at least that.

`join_lines`: the lines of a text, joined by line feeds, are the text.
-/
import SourceMark.Files.Basic
import SourceMark.Path
import SourceMark.Text.Digits

namespace SourceMark

/-- the lines of a file from `startLine` to `endLine`, taken around `line` -/
structure Excerpt where
  path : Text
  line : Nat
  startLine : Nat
  endLine : Nat
  lines : List Text
  totalLines : Nat
  deriving DecidableEq

inductive ExcerptError where
  | lineBelowOne (line : Int)
  | contextBelowZero (context : Int)
  | unreadable (error : FileError)
  deriving DecidableEq

def ExcerptError.message : ExcerptError → Text
  | .lineBelowOne line => "line must be >= 1, got ".toList ++ Text.signedDecimal line
  | .contextBelowZero context => "context must be >= 0, got ".toList ++ Text.signedDecimal context
  | .unreadable error => error.message

namespace Excerpt

/-- how many lines are shown on either side unless something else is asked for -/
def defaultContext : Nat := 5

/-- the line that the excerpt is taken around; empty when the file has no such line -/
def targetLine (e : Excerpt) : Text :=
  if e.startLine ≤ e.line then e.lines.getD (e.line - e.startLine) [] else []

def linesOf (text : Text) : List Text :=
  Text.splitOn '\n' text

theorem join_lines (text : Text) : Text.join ['\n'] (linesOf text) = text :=
  Text.join_splitOn '\n' text

def window (path text : Text) (line context : Nat) : Excerpt :=
  let lines := linesOf text
  let stop := min lines.length (line + context)
  let start := if stop ≤ line - context - 1 then stop - 1 else line - context - 1
  ⟨path, line, start + 1, stop, (lines.take stop).drop start, lines.length⟩

def ofFile (files : FileSystem) (path : Text) (line context : Int) : Except ExcerptError Excerpt :=
  if line < 1 then .error (.lineBelowOne line)
  else if context < 0 then .error (.contextBelowZero context)
  else
    match files.readText (Path.tidy path) with
    | .error error => .error (.unreadable error)
    | .ok text => .ok (window path text line.toNat context.toNat)

end Excerpt

end SourceMark
