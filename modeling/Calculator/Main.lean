import Calculator.Session

/-!
The program: looks at the paths that the invocation may ask about, runs the session on what stands
there, and writes what the session says.
-/

namespace Calculator

/-- What stands at a path, seen from the working directory. The entries of a directory do not
matter. -/
def entryAt (path : String) : IO (Except ReadFault Entry) := do
  let place := (← IO.currentDir) / path
  try
    if ← place.isDir then return .ok (.directory [])
    return .ok (.file (← IO.FS.readBinFile place))
  catch
    | .noFileOrDirectory .. => return .error .notFound
    | .inappropriateType .. => return .error .notDirectory
    | _ => return .error .other

end Calculator

open Calculator

/-- Runs a session on the command line of the process. -/
def main (words : List String) : IO UInt32 := do
  let start := (← IO.currentDir).toString
  let paths :=
    match CommandLine.read words with
    | .ok invocation => invocation.paths start
    | .error _ => []
  let entries ← paths.mapM fun path => return (path, ← entryAt path)
  let files := Files.ofEntries fun path => (entries.lookup path).getD (.error .notFound)
  let ending := session files start words
  IO.print ending.output
  if let some complaint := ending.complaint then IO.eprint complaint
  return ending.exitCode
