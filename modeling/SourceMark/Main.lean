/-
The program. It looks at the links and the files that a command line names, runs the request, and does what the outcome
says. All that it decides is decided by `Request.outcome`.
-/
import SourceMark.Command.Run
import SourceMark.Files.Snapshot

namespace SourceMark.Program

def usage : String :=
  "Usage: refine [-v] COMMAND ...\n\n" ++
  "  instrument PATH [-r DIR]... [--template-id ID] [--attribute NAME] [--dialect NAME]\n" ++
  "             [--extension EXT] [--no-components] [-o FILE]\n" ++
  "  scan PATH [-r DIR]... [--attribute NAME] [--dialect NAME] [--extension EXT] [--no-components]\n" ++
  "  encode TEMPLATE_ID LINE\n" ++
  "  decode TOKEN\n" ++
  "  locate TOKEN [-r DIR]... [--extension EXT] [--context LINES]\n"

/-- the fault that an error of the system stands for -/
def faultOf : IO.Error → FileFault
  | .noFileOrDirectory .. => .notFound
  | .permissionDenied .. => .permissionDenied
  | .inappropriateType .. => .isDirectory
  | error => ⟨0, error.toString.toList⟩

/-- what is found at a path -/
def lookAt (path : Text) : IO (Text × Except FileFault Bytes) := do
  try
    let content ← IO.FS.readBinFile (String.ofList path)
    return (path, .ok content.toList)
  catch error => return (path, .error (faultOf error))

/-- whether nothing is found at a path because its links never end; the system's number of that fault may be negated -/
def isEndless (path : Text) : IO Bool := do
  try
    discard (IO.FS.readBinFile (String.ofList path))
    return false
  catch
    | .invalidArgument _ number _ => return number == 40 || number == 0 - 40
    | _ => return false

/-- adds the links that a path goes over, seen from a directory, to those that were found before -/
def lookForLinks (directory : Text) (found : FoundLinks) (path : Text) : IO FoundLinks := do
  let mut found := found
  let mut place := if Path.isAbsolute path then ['/'] else directory
  for piece in Path.pieces path do
    let next := Path.absolute place piece
    try
      let target := (← IO.FS.realPath (String.ofList next)).toString.toList
      if target ≠ next then
        found := { found with targets := (next, target) :: found.targets }
      place := target
    catch _ =>
      if ← isEndless next then
        found := { found with endless := next :: found.endless }
      place := next
  return found

def readColumns : IO Nat := do
  let columns ← IO.getEnv "COLUMNS"
  return (columns.bind String.toNat?).getD 80

def readEnvironment : IO Environment := do
  let found ← Settings.Field.all.mapM fun f => do
    let value ← IO.getEnv (String.ofList f.variable)
    return value.map fun value => (f.variable, value.toList)
  return found.filterMap id

/-- a printed text as it goes to a stream -/
def render : Printed → String
  | .usage => usage
  | .text text => String.ofList text

/-- does what an outcome says, and gives the exit code -/
def perform (outcome : Outcome) : IO UInt32 := do
  if let some (path, text) := outcome.written then
    IO.FS.writeFile (String.ofList path) (String.ofList text)
  IO.print (render outcome.output)
  IO.eprint (render outcome.errors)
  if let some failure := outcome.failure then
    IO.eprintln (String.ofList failure.message)
  return UInt32.ofNat outcome.exitCode

end SourceMark.Program

open SourceMark in
def main (arguments : List String) : IO UInt32 := do
  let request := Request.ofWords (arguments.map String.toList)
  let directory := (toString (← IO.currentDir)).toList
  let env ← Program.readEnvironment
  let links ← request.resolved.foldlM (Program.lookForLinks directory) {}
  let unread := (Snapshot.toFileSystem [] directory).withLinks links
  let snapshot ← (request.paths unread env).mapM Program.lookAt
  let console := Console.ofWidth (← Program.readColumns)
  Program.perform (request.outcome console ((Snapshot.toFileSystem snapshot directory).withLinks links) env)
