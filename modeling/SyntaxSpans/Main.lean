import SyntaxSpans.CommandLine.Execute
import SyntaxSpans.Tree.Outline

set_option autoImplicit false

/- The program as it runs: files are read as they are asked for by name, and the tree of each comes
from an outline beside it, called after the file with `.tree` behind its name. -/
namespace SyntaxSpans.CommandLine

def ioFault : IO.Error → IoFault
  | .noFileOrDirectory .. => .notFound
  | .invalidArgument _ code details =>
      if code = 36 ∨ code = -36 then .nameTooLong else .other details
  | .inappropriateType _ code _ => if code = 21 then .isDirectory else .notDirectory
  | .otherError _ details => .other details
  | error => .other (toString error)

def readFiles (paths : List String) : IO (List (String × Except IoFault Bytes)) :=
  paths.mapM fun (path : String) => do
    try
      let bytes ← IO.FS.readBinFile path
      return (path, .ok bytes.toList)
    catch error => return (path, .error (ioFault error))

def readTrees (files : List (String × Except IoFault Bytes)) : IO (List (List Char × Parse)) := do
  let mut trees := []
  for (path, content) in files do
    if let .ok bytes := content then
      try
        let outline ← IO.FS.readFile (path ++ ".tree")
        if let some parse := Outline.parse? outline then
          trees := (Utf8.dropMark (Utf8.decode bytes), parse) :: trees
      catch _ => pure ()
  return trees

/-- Runs the program and writes what it has to say. -/
def perform (given : List String) : IO UInt32 := do
  let paths := match Request.ofArguments given with
    | .accepted arguments => arguments.positionals
    | _ => []
  let files ← readFiles paths
  let trees ← readTrees files
  let world : World :=
    { files := fun path => (files.lookup path).getD (.error .notFound)
      parser := fun _ text => trees.lookup text }
  let ending := run world given
  let log := ending.log (← IO.getEnv "DECL_SPANS_LOG") given
  let complaints ← IO.getStderr
  for line in log ++ ending.complaints do
    complaints.putStrLn line
  (← IO.getStdout).write (ByteArray.mk ending.output.toArray)
  return ending.exitCode.toUInt32

end SyntaxSpans.CommandLine

def main (given : List String) : IO UInt32 := SyntaxSpans.CommandLine.perform given
