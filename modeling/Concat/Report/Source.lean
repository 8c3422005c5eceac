import Concat.Token

/-!
# Lines of a source text

A report shows the lines of the text it is about. A text is cut into lines after each line
terminator: carriage return, line feed, vertical tab, form feed, next line, line separator and
paragraph separator, where a carriage return followed by a line feed ends one line. Each line
keeps its terminator, so the lines put together give the text back. The empty text has one
empty line; a text that ends with a terminator has no empty line after it.

Each line knows where it starts, counted both in characters and in bytes, so that a byte
offset can be turned into a line and a column of characters.

* `SourceLine.split`: the lines of a list of characters;
* `Source.ofText`: the lines of a text with their offsets;
* `Source.lineOfByte?` and `Source.lineOfChar?`: the line that holds an offset.
-/

namespace Concat

/-- Whether a character ends a line. -/
def isLineBreak (c : Char) : Bool :=
  c == '\r' || c == '\n' || c == '\x0B' || c == '\x0C' || c == '\x85' || c == '\u2028' ||
    c == '\u2029'

/-- One line of a source text. -/
structure SourceLine where
  /-- The line's characters, its terminator included. -/
  chars : List Char
  /-- How many characters of the text come before the line. -/
  charStart : Nat
  /-- How many bytes of the text come before the line. -/
  byteStart : Nat
  deriving Repr, Inhabited

namespace SourceLine

/-- The lines of `cs`, each with its terminator; `acc` holds the characters of the line begun
    so far, the latest first. -/
def splitFrom : List Char → List Char → List (List Char)
  | [], acc => if acc.isEmpty then [] else [acc.reverse]
  | '\r' :: '\n' :: rest, acc => ('\n' :: '\r' :: acc).reverse :: splitFrom rest []
  | c :: rest, acc =>
    if isLineBreak c then (c :: acc).reverse :: splitFrom rest [] else splitFrom rest (c :: acc)

/-- The lines of a list of characters, each with its terminator; one empty line when there are
    no characters. -/
def split (cs : List Char) : List (List Char) :=
  if cs.isEmpty then [[]] else splitFrom cs []

/-- How many characters the line has, its terminator included. -/
def charLen (l : SourceLine) : Nat := l.chars.length

/-- How many bytes the line has, its terminator included. -/
def byteLen (l : SourceLine) : Nat := Token.byteLength l.chars

/-- How many characters of the line start before the byte column `b`. -/
def charsBefore (l : SourceLine) (b : Nat) : Nat :=
  go l.chars 0
where
  /-- Counts the characters that start before `b`, the first of `cs` starting at byte `pos`. -/
  go : List Char → Nat → Nat
    | [], _ => 0
    | c :: cs, pos => if pos < b then go cs (pos + c.utf8Size) + 1 else 0

end SourceLine

/-- A text cut into lines. -/
structure Source where
  /-- The lines, in order. -/
  lines : List SourceLine
  deriving Repr, Inhabited

namespace Source

/-- Gives each line its offsets, the first starting at `chars` characters and `bytes` bytes. -/
def place : List (List Char) → Nat → Nat → List SourceLine
  | [], _, _ => []
  | l :: ls, chars, bytes =>
    ⟨l, chars, bytes⟩ :: place ls (chars + l.length) (bytes + Token.byteLength l)

/-- The lines of a text. -/
def ofText (s : String) : Source :=
  ⟨place (SourceLine.split s.toList) 0 0⟩

/-- How many characters the text has. -/
def charLen (src : Source) : Nat := src.lines.foldr (fun l n => l.charLen + n) 0

/-- How many bytes the text has. -/
def byteLen (src : Source) : Nat := src.lines.foldr (fun l n => l.byteLen + n) 0

/-- The last line, with its index, whose start `start` is at most `n`. -/
def lastStartingBy (start : SourceLine → Nat) (n : Nat) :
    List SourceLine → Nat → Option (Nat × SourceLine) → Option (Nat × SourceLine)
  | [], _, found => found
  | l :: ls, i, found =>
    if start l ≤ n then lastStartingBy start n ls (i + 1) (some (i, l)) else found

/-- The index and the line that hold the byte offset `b`: the last line starting at or before
    it. An offset past the end of the text has none. -/
def lineOfByte? (src : Source) (b : Nat) : Option (Nat × SourceLine) :=
  if b ≤ src.byteLen then lastStartingBy (·.byteStart) b src.lines 0 none else none

/-- The index and the line that hold the character offset `n`. -/
def lineOfChar? (src : Source) (n : Nat) : Option (Nat × SourceLine) :=
  if n ≤ src.charLen then lastStartingBy (·.charStart) n src.lines 0 none else none

end Source

example : SourceLine.split "a\r\nb\rc\n".toList = ["a\r\n".toList, "b\r".toList, "c\n".toList] := by
  decide

end Concat
