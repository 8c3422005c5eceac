import Concat.Token

/-!
# Bracket highlighting

While a line is typed, its brackets are coloured with terminal escape codes. The line is read
once, character by character, with the `[`s still open kept on a stack, the latest on top: a `]`
closes the `[` on top. A `]` that closes nothing is written in red. When a `]`, or the `[` it
closes, stands just before the cursor (a byte offset), the `]` is written in blue and the `[`,
written earlier, is made bold blue where it stands. Every other character is written as it is.

To find that place, the stack keeps with each `[` its byte offset in the line and its place in
what has been written, counted in characters. Only the `[` on top of the stack is ever changed
in place, and every `[` under it was written before it, so a change never moves a place still
on the stack.

* `Console.charIndices`: the characters of a line with their byte offsets;
* `Console.Highlighter.feed`: the highlighter takes one more character;
* `Console.highlight`: the line with its escape codes.
-/

namespace Concat.Console

/-- The escape code that starts red text. -/
def red : String := "\x1b[31m"

/-- The escape code that starts blue text. -/
def blue : String := "\x1b[34m"

/-- The escape code that starts bold blue text. -/
def boldBlue : String := "\x1b[1;34m"

/-- The escape code that ends a colour. -/
def reset : String := "\x1b[0m"

/-- The characters of `cs`, each with its byte offset, the first at `pos`. -/
def charIndices : List Char → Nat → List (Char × Nat)
  | [], _ => []
  | c :: cs, pos => (c, pos) :: charIndices cs (pos + c.utf8Size)

/-- The characters `cs` with the one at place `i` replaced by the text `s`. -/
def replaceAt (cs : List Char) (i : Nat) (s : String) : List Char :=
  cs.take i ++ s.toList ++ cs.drop (i + 1)

/-- The highlighter part way through a line. -/
structure Highlighter where
  /-- What has been written so far. -/
  written : List Char
  /-- The `[`s still open, the latest first, each with its byte offset in the line and its
      place in what has been written. -/
  opens : List (Nat × Nat)
  deriving Repr, Inhabited

namespace Highlighter

/-- Takes the character `c`, at byte `offset` of the line, with the cursor at byte `cursor`. -/
def feed (cursor : Nat) (h : Highlighter) (c : Char) (offset : Nat) : Highlighter :=
  if c = '[' then ⟨h.written ++ [c], (offset, h.written.length) :: h.opens⟩
  else if c = ']' then
    match h.opens with
    | (o, place) :: rest =>
      if o + 1 = cursor ∨ offset + 1 = cursor then
        -- The `]` goes in blue, and the `[` it closes is made bold blue where it was written.
        ⟨replaceAt (h.written ++ (blue ++ "]" ++ reset).toList) place (boldBlue ++ "[" ++ reset),
          rest⟩
      else ⟨h.written ++ [c], rest⟩
    | [] => ⟨h.written ++ (red ++ "]" ++ reset).toList, []⟩
  else ⟨h.written ++ [c], h.opens⟩

end Highlighter

/-- The line with escape codes around its stray `]`s and around the pair at the cursor. -/
def highlight (line : String) (cursor : Nat) : String :=
  let h := (charIndices line.toList 0).foldl
    (fun (h : Highlighter) (c, offset) => h.feed cursor c offset) ⟨[], []⟩
  String.ofList h.written

example : highlight "] [a]" 5 = red ++ "]" ++ reset ++ " " ++ boldBlue ++ "[" ++ reset ++ "a" ++
    blue ++ "]" ++ reset := by
  decide

end Concat.Console
