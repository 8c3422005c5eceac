/-!
# Transcripts

What a program run at a console leaves behind: the text it wrote to its standard output and to
its standard error, and its exit code. Programs here write to a transcript by appending, and
finish by setting the code.

* `Transcript.say` and `Transcript.warn`: append a line to the output or to the error stream.
-/

namespace Concat

/-- The two output streams of a run and its exit code. -/
structure Transcript where
  /-- What was written to the standard output. -/
  out : String
  /-- What was written to the standard error. -/
  err : String
  /-- The exit code. -/
  code : Nat
  deriving DecidableEq, Repr, Inhabited

namespace Transcript

/-- Nothing written yet, and a successful exit. -/
def empty : Transcript := ⟨"", "", 0⟩

/-- Appends a line to the standard output. -/
def say (t : Transcript) (line : String) : Transcript := { t with out := t.out ++ line ++ "\n" }

/-- Appends a line to the standard error. -/
def warn (t : Transcript) (line : String) : Transcript := { t with err := t.err ++ line ++ "\n" }

/-- Appends text, as it is, to the standard error. -/
def warnText (t : Transcript) (text : String) : Transcript := { t with err := t.err ++ text }

/-- Ends the run with the given exit code. -/
def exitWith (t : Transcript) (code : Nat) : Transcript := { t with code := code }

/-- Ends the run with a failure code. -/
def fail (t : Transcript) : Transcript := t.exitWith 1

end Transcript

end Concat
