/-!
# Input history

The console remembers the lines it has read, oldest first, at most `History.capacity` of them:
adding a line to a full history forgets the oldest. An empty line is not remembered, nor a line
equal to the one remembered last.

The history is kept in a file between runs. The file starts with the line `#V2`; each entry
follows on a line of its own, with each backslash doubled and each line feed written `\n`.
A line ends at a line feed, and a carriage return just before the feed is not part of it.
Reading a file skips empty lines; a file without the `#V2` line takes its lines as they are,
and in a file with it an entry whose backslashes do not form such escapes is also taken as it
is. The file is written again only when lines were added since it was read.

* `History.add`: remember a line;
* `History.ofFile` and `History.toFile`: read and write the file's text.
-/

namespace Concat

/-- The lines a console remembers. -/
structure History where
  /-- The lines, oldest first. -/
  entries : List String
  /-- How many of them were added since the history was read from its file. -/
  fresh : Nat
  deriving DecidableEq, Repr, Inhabited

namespace History

/-- The most lines a history holds. -/
def capacity : Nat := 100

/-- The history with no lines. -/
def empty : History := ⟨[], 0⟩

/-- Remembers a line, unless it is empty or equal to the last line remembered. -/
def add (h : History) (line : String) : History :=
  if line.isEmpty || h.entries.getLast? == some line then h
  else
    let kept := if h.entries.length < capacity then h.entries else h.entries.drop 1
    let entries := kept ++ [line]
    ⟨entries, min (h.fresh + 1) entries.length⟩

/-- Undoes the escapes of a stored entry: `\\` and `\n`; `none` for any other backslash. -/
def unescape : List Char → Option (List Char)
  | [] => some []
  | '\\' :: 'n' :: rest => (unescape rest).map ('\n' :: ·)
  | '\\' :: '\\' :: rest => (unescape rest).map ('\\' :: ·)
  | '\\' :: _ => none
  | c :: rest => (unescape rest).map (c :: ·)

/-- Writes an entry with its backslashes doubled and its line feeds as `\n`. -/
def escape (s : String) : String :=
  s.toList.foldl (fun out c =>
    if c = '\\' then out ++ "\\\\" else if c = '\n' then out ++ "\\n" else out.push c) ""

/-- Cuts a line off a line feed: without a carriage return just before the feed. -/
def endLine (l : String) : String :=
  if l.endsWith "\r" then String.ofList l.toList.dropLast else l

/-- The lines of a file's text: cut at line feeds, each line that ends in a line feed without
    a carriage return just before it. A last line without a line feed is kept as it is, a
    carriage return at its end included, and there is no empty line after a final line feed. -/
def fileLines (text : String) : List String :=
  match (text.splitOn "\n").reverse with
  | [] => []
  | last :: ended => (ended.reverse.map endLine) ++ (if last.isEmpty then [] else [last])

/-- The history a file's text holds; none of its lines count as added. -/
def ofFile (text : String) : History :=
  let lines := fileLines text
  let marked := lines.head? == some "#V2"
  let body := if marked then lines.drop 1 else lines
  let entries := body.filter (!·.isEmpty) |>.map fun l =>
    if marked then ((unescape l.toList).map String.ofList).getD l else l
  { entries.foldl add empty with fresh := 0 }

/-- The text a file holding the history gets. -/
def toFile (h : History) : String :=
  h.entries.foldl (fun out e => out ++ escape e ++ "\n") "#V2\n"

/-- Whether the file must be written: lines were added since it was read. -/
def changed (h : History) : Bool :=
  !h.entries.isEmpty && h.fresh != 0

example : (empty.add "a" |>.add "a" |>.add "" |>.add "b\\c").toFile = "#V2\na\nb\\\\c\n" := by
  decide

end History

end Concat
