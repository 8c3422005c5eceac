import Concat.Report.Basic
import Concat.Report.Source
import Concat.Text.Pad
import Concat.Text.Width

/-!
# Writing a diagnostic as a boxed report

A report is plain text drawn with box-drawing characters. With `w` the number of digits of
the last line shown, it reads, row by row:

* `Error: <message>`;
* `w + 2` spaces, `╭─[ <source>:<line>:<column> ]`, where the place is where the marked bytes
  start (the column counts characters from one), then `w + 2` spaces and `│`;
* the marked lines: each shown line has its number, right-aligned in `w` columns, between a
  space and ` │ `, and then its text;
* under the text, the mark and the label (below);
* for a note, a row with only the margin, and a row `Note: <note>`;
* `w + 2` horizontal bars and `╯`.

Rows without a line number start with `w + 2` spaces and `│ `.

A line is shown without its trailing blanks; a tab becomes spaces up to the next multiple of
four characters (counting characters, not columns) and every other blank becomes a space.

**Marks within one line.** The mark spans the columns of the marked characters; it is drawn
with `─`, with `┬` at the middle character (the mean of the first and the end offset). The row
below has `╰` at the middle character, `─` up to two columns past the end of the mark, a
space, and the label. Each character of the line counts for as many columns as it takes on a
terminal (`Text.columns`): a wide character gets two, a zero-width one none.

**Marks over several lines.** The first and last marked lines get the margin arrows `╭─▶` and
`├─▶` before their text, and the lines between them are replaced by one row `┆ ┆`. Under the
last line come a row `│ │` and a row `│ ╰───` followed by `─` up to two columns past the end of
that line, a space and the label. The rows of the note are then indented past the arrows.

* `Diagnostic.render`: the report of a diagnostic about a text.
-/

namespace Concat

namespace Diagnostic

/-- Where the marked bytes fall in the source. -/
structure Placement where
  /-- The index of the line where the mark starts. -/
  first : Nat
  /-- That line. -/
  firstLine : SourceLine
  /-- The index of the line where the mark ends. -/
  last : Nat
  /-- That line. -/
  lastLine : SourceLine
  /-- The character offset where the mark starts. -/
  charStart : Nat
  /-- The character offset just past the mark. -/
  charStop : Nat

/-- Places a span of bytes: its first line from its first byte, its last line from its last
    byte, and the characters it covers. A span that reaches past the text is not placed. -/
def place (src : Source) (sp : Span) : Option Placement := do
  let (i, li) ← src.lineOfByte? sp.start
  let cs := li.charStart + li.charsBefore (min (sp.start - li.byteStart) li.byteLen)
  if sp.stop ≤ sp.start then
    return ⟨i, li, i, li, cs, cs⟩
  let (j, lj) ← src.lineOfByte? (sp.stop - 1)
  let ce := lj.charStart + lj.charsBefore (sp.stop - 1 - lj.byteStart + 1)
  return ⟨i, li, j, lj, cs, ce⟩

/-- `n` copies of a character. -/
def rep (c : Char) (n : Nat) : String := "".pushn c n

/-- The characters of a line without its trailing blanks (its terminator among them). -/
def trimmed (l : SourceLine) : List Char :=
  (l.chars.reverse.dropWhile Text.isBlank).reverse

/-- How many columns the character `c` takes at the character index `col` of a shown line: a
    tab reaches the next multiple of four, another blank takes one. -/
def cellWidth (c : Char) (col : Nat) : Nat :=
  if c = '\t' then (col / 4 + 1) * 4 - col
  else if Text.isBlank c then 1
  else Text.columns c

/-- The text of a shown line, its blanks turned into spaces. -/
def shown (l : SourceLine) : String :=
  go (trimmed l) 0 ""
where
  /-- Appends the characters `cs`, the first at index `col`, to `out`. -/
  go : List Char → Nat → String → String
    | [], _, out => out
    | c :: cs, col, out =>
      if Text.isBlank c then go cs (col + 1) (out.pushn ' ' (cellWidth c col))
      else go cs (col + 1) (out.push c)

/-- The widths of the first `n` character places of a shown line; a place past its text takes
    one column. -/
def columnWidths (l : SourceLine) (n : Nat) : List Nat :=
  go (trimmed l) 0 n
where
  /-- The widths of `n` places, the first of them at index `col` and holding `cs`. -/
  go : List Char → Nat → Nat → List Nat
    | _, _, 0 => []
    | [], col, k + 1 => 1 :: go [] (col + 1) k
    | c :: cs, col, k + 1 => cellWidth c col :: go cs (col + 1) k

/-- A cell of `w` columns: `head` in the first, `tail` in the others; nothing when `w` is zero. -/
def cell (head tail : Char) (w : Nat) : String :=
  if w = 0 then "" else (String.singleton head).pushn tail (w - 1)

/-- The margin of a numbered line, its number right-aligned in `w` columns. -/
def lineMargin (w idx : Nat) : String :=
  " " ++ Text.alignRight w (toString (idx + 1)) ++ " │ "

/-- The rows of a mark within one line: the line, the mark, and the label. -/
def inlineRows (d : Diagnostic) (w : Nat) (p : Placement) : String :=
  let l := p.firstLine
  let lo := p.charStart - l.charStart
  let hi := p.charStop - l.charStart
  let anchor := (p.charStart + p.charStop) / 2 - l.charStart
  let widths := (columnWidths l (hi + 2)).zipIdx
  let covered (col : Nat) := lo ≤ col && col < hi
  let under := widths.foldl (fun out (wc, col) =>
    out ++ if col = anchor then (if covered col then cell '┬' '─' wc else cell '│' ' ' wc)
      else if covered col then rep '─' wc else rep ' ' wc) ""
  let arrow := widths.foldl (fun out (wc, col) =>
    out ++ if col = anchor then cell '╰' '─' wc else if col > anchor then rep '─' wc
      else rep ' ' wc) ""
  let blank := rep ' ' (w + 2)
  lineMargin w p.first ++ shown l ++ "\n" ++
    blank ++ "│ " ++ under ++ "\n" ++
    blank ++ "│ " ++ arrow ++ " " ++ d.label ++ "\n"

/-- The rows of a mark over several lines: the first and last lines with their margin arrows,
    one row for the lines between, and the label under the last line. -/
def spanningRows (d : Diagnostic) (w : Nat) (p : Placement) : String :=
  let blank := rep ' ' (w + 2)
  let total := (columnWidths p.lastLine (p.lastLine.charLen + 2)).foldr (· + ·) 0
  lineMargin w p.first ++ "╭─▶ " ++ shown p.firstLine ++ "\n" ++
    (if p.first + 1 < p.last then blank ++ "┆ ┆   \n" else "") ++
    lineMargin w p.last ++ "├─▶ " ++ shown p.lastLine ++ "\n" ++
    blank ++ "│ │   " ++ rep ' ' total ++ "\n" ++
    blank ++ "│ ╰───" ++ rep '─' total ++ " " ++ d.label ++ "\n"

/-- The report of a diagnostic about the text `text`, which is called `id`. -/
def render (d : Diagnostic) (id text : String) : String :=
  let header := "Error: " ++ d.message ++ "\n"
  match place (Source.ofText text) d.span with
  | none => header
  | some p =>
    let w := (toString (p.last + 1)).length
    let blank := rep ' ' (w + 2)
    let column := p.charStart - p.firstLine.charStart + 1
    let spanning := p.first ≠ p.last
    let noteMargin := blank ++ "│ " ++ (if spanning then "    " else "")
    header ++
      blank ++ "╭─[ " ++ id ++ ":" ++ toString (p.first + 1) ++ ":" ++ toString column ++ " ]\n" ++
      blank ++ "│\n" ++
      (if spanning then spanningRows d w p else inlineRows d w p) ++
      (match d.note with
        | none => ""
        | some n => noteMargin ++ "\n" ++ noteMargin ++ "Note: " ++ n ++ "\n") ++
      rep '─' (w + 2) ++ "╯\n"

end Diagnostic

end Concat
