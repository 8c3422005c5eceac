import Concat.Report.Render
import Concat.Console.Files
import Concat.Console.Transcript

/-!
# The batch runner

The runner evaluates scripts one after another in a single session that holds the standard
words, with no step limit, and prints the stack they leave. The scripts are the files named on
its command line, all read before any is evaluated; with no names it reads its standard input
instead, under the name `<stdin>`.

It stops at the first failure, with exit code 1: a file that cannot be read (`Error reading
<name>: <reason>`), standard input that is not UTF-8, or a script whose evaluation fails, for
which it writes the report of the failure, naming the script, to the error stream. Otherwise
it writes the final stack on one line and exits with 0. A script that runs for ever keeps the
runner from ever finishing: given fuel for its runs (see `State.run`), the runner gives no
transcript when a script's run has not ended when the fuel is spent.

* `Runner.run`: the transcript of a run.
-/

namespace Concat.Runner

/-- The scripts to evaluate, each with its name, or the transcript of the failure to read
    them; `read` reads a named file. -/
def sources (read : String → Except ReadFailure String) (args : List String) (stdin : ByteArray) :
    Except Transcript (List (String × String)) :=
  if args.isEmpty then
    match String.fromUTF8? stdin with
    | some text => .ok [("<stdin>", text)]
    | none => .error (Transcript.empty.warn ("Error reading stdin: " ++ ReadFailure.notText.message)).fail
  else
    args.mapM fun name =>
      match read name with
      | .ok text => .ok (name, text)
      | .error e => .error (Transcript.empty.warn ("Error reading " ++ name ++ ": " ++ e.message)).fail

/-- Evaluates the scripts in turn, stopping at the first failure with its report. -/
def evalAll (fuel : Nat) (ss : Session) :
    List (String × String) → Option (Except Transcript Session)
  | [] => some (.ok ss)
  | (name, text) :: rest =>
    (ss.eval fuel text).bind fun
      | .ok ss' => evalAll fuel ss' rest
      | .error p =>
        some (.error (Transcript.empty.warnText ((p.diagnostic text).render name text)).fail)

/-- The transcript of the runner given a way to read files, its command line and its standard
    input. Nothing when a script's run has not ended when `fuel` is spent. -/
def run (fuel : Nat) (read : String → Except ReadFailure String) (args : List String)
    (stdin : ByteArray) : Option Transcript :=
  match sources read args stdin with
  | .error t => some t
  | .ok scripts =>
    (evalAll fuel Session.withPrelude scripts).map fun
      | .error t => t
      | .ok ss => Transcript.empty.say ss.stack.render

end Concat.Runner
