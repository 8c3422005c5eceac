import Concat.Console.Runner

/-!
# The command line

`main` is the batch runner (`Runner.run`) on the real file system: each path named on the
command line is read before anything is evaluated, and the standard input is read when no path
is named. This module only moves bytes between the operating system and the runner.
-/

open Concat

/-- What reading a path on the file system gives, as the runner sees it. -/
def readScript (path : String) : IO (Except ReadFailure String) := do
  try
    let bytes ← IO.FS.readBinFile path
    return match String.fromUTF8? bytes with
      | some text => .ok text
      | none => .error .notText
  catch e =>
    return .error <| match e with
      | .inappropriateType _ 20 _ => .notFolder
      | .inappropriateType _ _ _ => .isFolder
      | .otherError 21 _ => .isFolder
      | .otherError 20 _ => .notFolder
      | _ => .notFound

/-- Runs the scripts named on the command line, or the standard input, and exits with the
    runner's code. -/
def main (args : List String) : IO UInt32 := do
  let reads ← args.mapM fun path => return (path, ← readScript path)
  let stdin ← if args.isEmpty then (← IO.getStdin).readBinToEnd else pure ByteArray.empty
  let read (path : String) : Except ReadFailure String :=
    (reads.lookup path).getD (.error .notFound)
  -- Only a script that runs for ever spends the allowance.
  let some t := Runner.run State.allowance read args stdin | return 1
  let out ← IO.getStdout
  let err ← IO.getStderr
  out.putStr t.out
  err.putStr t.err
  out.flush
  err.flush
  return t.code.toUInt32
