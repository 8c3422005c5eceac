import Concat.Report.Render
import Concat.Console.Limit
import Concat.Console.History
import Concat.Console.LineReader
import Concat.Console.Transcript
import Concat.Console.Files
import Concat.Text.Pad
import Concat.Text.Quote

/-!
# The interactive console

The console greets the user, then reads entries (see `LineReader`) and answers each one in a
session that holds the standard words. Every entry read is remembered in the history. An entry
is then taken without the blanks at its ends:

* a blank entry is ignored, and `exit`, in any mix of ASCII cases, ends the console;
* `:dict` lists the bound names, sorted, as `  name = value`;
* `:clear` empties the stack;
* `:trace` and `:strict` switch tracing and strict reading on or off, and say so;
* `:limit` followed by a limit (see `Console.parseLimit`) sets the step limit and says so, and
  followed by anything else writes how to use it to the error stream;
* anything else is evaluated: the stack is written when it succeeds, the report of the
  failure (about the source `REPL`) when it fails. While tracing is on, each step is written
  first, as the rule's name right-aligned in six columns, two spaces and the state.

The step limit starts at one million steps, or at the value of the setting
`FOURFOLD_STEP_LIMIT` when it has one that reads as a limit; a setting that does not is
ignored, with a warning.

The console ends at `exit`, at the end of its input (after writing `Exiting.` on a line of its
own, after an empty line), or at input that is not UTF-8 (with an error). It then writes its
history back to its file, if any entry was added; a history file that is in fact a folder can
be neither read nor written. A backspace that would cut a character in two (see `LineReader`)
stops the console at once, with the exit code 101 and no history written.

* `Repl.run`: the transcript of a run, and the history file after it.
-/

namespace Concat

/-- What stands at the place of the history file. -/
inductive HistoryFile where
  /-- Nothing. -/
  | absent
  /-- A file with this text. -/
  | text (contents : String)
  /-- A folder. -/
  | folder
  deriving DecidableEq, Repr, Inhabited

/-- The state of the console between two entries. -/
structure Repl where
  /-- The session entries are evaluated in. -/
  session : Session
  /-- Whether each step is written. -/
  tracing : Bool
  /-- The entries remembered. -/
  history : History
  /-- What has been written so far. -/
  transcript : Transcript

/-- How the console stopped reading. -/
inductive Ending where
  /-- The entry `exit`. -/
  | exit
  /-- The end of the input. -/
  | endOfInput
  /-- Input that is not UTF-8. -/
  | unreadable
  /-- A backspace that would cut a character in two. -/
  | aborted
  deriving DecidableEq, Repr, Inhabited

namespace Repl

/-- The step limit of a console when its setting gives none. -/
def defaultLimit : Nat := 1000000

/-- The two lines the console greets with. -/
def banner : List String :=
  ["fourfold REPL v0.1.0",
    "Type 'exit' or press Ctrl-D to quit. Commands: :dict :clear :trace :strict :limit <n|off>"]

/-- The word for a switch that is on or off. -/
def onOff (b : Bool) : String := if b then "on" else "off"

/-- Writes a line to the output. -/
def say (r : Repl) (line : String) : Repl := { r with transcript := r.transcript.say line }

/-- Evaluates an entry, writing the steps while tracing, then the stack or the report. -/
def evaluate (fuel : Nat) (r : Repl) (entry : String) : Option Repl :=
  let outcome :=
    if r.tracing then r.session.evalTraced fuel entry
    else (r.session.eval fuel entry).map fun result => (#[], result)
  outcome.map fun (steps, result) =>
    let t := steps.foldl (fun t (rule, st) =>
      t.say (Text.alignRight 6 rule.name ++ "  " ++ st.render)) r.transcript
    -- A failed evaluation leaves the session as it was.
    let (o, ss) := r.session.settle result
    match o with
    | .ok () => { r with session := ss, transcript := t.say ss.stack.render }
    | .error p =>
      { r with session := ss, transcript := t.warnText ((p.diagnostic entry).render "REPL" entry) }

/-- Answers one entry; `true` when it ends the console. Nothing when the entry's evaluation
    has not ended when `fuel` is spent. -/
def answer (fuel : Nat) (r : Repl) (line : String) : Option (Repl × Bool) :=
  let r := { r with history := r.history.add line }
  let entry := Text.trimBlanks line
  if entry.isEmpty then some (r, false)
  else if entry.map Char.toLower == "exit" then some (r, true)
  else if entry == ":dict" then
    some (r.session.dictionary.entries.foldl
      (fun r (name, v) => r.say ("  " ++ name ++ " = " ++ v.render)) r, false)
  else if entry == ":clear" then some ({ r with session := r.session.clearStack }, false)
  else if entry == ":trace" then
    let r := { r with tracing := !r.tracing }
    some (r.say ("Tracing " ++ onOff r.tracing), false)
  else if entry == ":strict" then
    let r := { r with session := r.session.setStrict !r.session.strict }
    some (r.say ("Strict parsing " ++ onOff r.session.strict), false)
  else if entry.startsWith ":limit" then
    match Console.parseLimit (String.ofList (entry.toList.drop 6)) with
    | some limit =>
      let r := { r with session := r.session.setLimit limit }
      some (r.say (match limit with
        | some n => "Step limit set to " ++ toString n
        | none => "Step limit disabled"), false)
    | none => some ({ r with transcript := r.transcript.warn "Usage: :limit <n|off>" }, false)
  else (r.evaluate fuel entry).map fun r => (r, false)

/-- Reads and answers entries from the raw lines of the input; `pending` holds an entry begun
    on earlier lines and not yet complete. -/
def feed (fuel : Nat) : List ByteArray → String → Repl → Option (Repl × Ending)
  | [], _, r => some (r, .endOfInput)
  | raw :: rest, pending, r =>
    match String.fromUTF8? raw with
    | none => some (r, .unreadable)
    | some text =>
      let (body, cr, lf) := LineReader.stripEnd (pending ++ text)
      match LineReader.eraseBackspaces body with
      | none => some (r, .aborted)
      | some entry =>
        if LineReader.isComplete entry then
          (r.answer fuel entry).bind fun
            | (r, true) => some (r, .exit)
            | (r, false) => feed fuel rest "" r
        else feed fuel rest (entry ++ (if cr then "\r" else "") ++ (if lf then "\n" else "")) r

/-- The step limit the setting gives, and the warning to write when it gives none. -/
def initialLimit (setting : Option String) : Option Nat × Option String :=
  match setting with
  | none => (some defaultLimit, none)
  | some v =>
    match Console.parseLimit v with
    | some limit => (limit, none)
    | none => (some defaultLimit,
      some ("Ignoring FOURFOLD_STEP_LIMIT=" ++ Text.quote v ++ "; using " ++ toString defaultLimit))

/-- The message for input that is not UTF-8. -/
def unreadableMessage : String :=
  "Readline Error: Io(Error \x7b kind: InvalidData, message: " ++
    Text.quote ReadFailure.notText.message ++ " \x7d)"

/-- The message for a backspace that would cut a character in two. -/
def abortMessage : String :=
  "thread 'main' panicked:\nassertion failed: self.is_char_boundary(new_len)"

/-- The message for a history file that is a folder and cannot be written. -/
def folderMessage : String :=
  "Error: Io(Os \x7b code: 21, kind: IsADirectory, message: " ++ Text.quote "Is a directory" ++
    " \x7d)"

/-- The transcript of the console given its input, its step-limit setting and what stands at
    the place of its history file, with what stands there after it. Nothing when an entry's
    evaluation has not ended when `fuel` is spent. -/
def run (fuel : Nat) (input : ByteArray) (setting : Option String) (file : HistoryFile) :
    Option (Transcript × HistoryFile) :=
  let t := banner.foldl Transcript.say Transcript.empty
  let (limit, warning) := initialLimit setting
  let t := match warning with
    | some w => t.warn w
    | none => t
  let (history, t) := match file with
    | .text s => (History.ofFile s, t)
    | _ => (History.empty, t.say "No previous history.")
  let r : Repl := ⟨Session.withPrelude.setLimit limit, false, history, t⟩
  (feed fuel (LineReader.rawLines input) "" r).map fun (r, ending) =>
    let t := match ending with
      | .exit => r.transcript
      | .endOfInput => r.transcript.say "\nExiting."
      | .unreadable => r.transcript.warn unreadableMessage
      | .aborted => (r.transcript.warn abortMessage).exitWith 101
    -- A console that stopped on a failed assertion writes no history.
    if ending == .aborted || !r.history.changed then (t, file)
    else match file with
      | .folder => ((t.warn folderMessage).fail, file)
      | _ => (t, .text r.history.toFile)

end Repl

end Concat
