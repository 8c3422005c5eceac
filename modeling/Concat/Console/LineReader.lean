import Concat.Text.Grapheme

/-!
# Reading lines from a pipe

When the console's input is not a terminal, lines are read as they come, with no prompt and
no editing, in three steps for each line of input:

1. the line feed that ends it is removed, and then a carriage return before it;
2. each backspace character deletes the grapheme cluster before it, over everything read for
   the current entry so far. The size of each cluster is remembered in a single byte, so a
   cluster of 256 bytes or more is remembered modulo 256, and a backspace then deletes only
   that many of its last bytes. A deletion that would cut a character in two stops the
   console;
3. the entry is *complete* unless it leaves a `[` open: counting `[` up and `]` down, never
   below zero, it must end at zero. An entry that is not complete gets its line end back and
   takes in the next line too.

Input that ends in the middle of an entry loses that entry.

* `LineReader.rawLines`: the bytes of the input cut after each line feed;
* `LineReader.eraseBackspaces`: the text after its backspaces have acted, if no deletion cuts
  a character;
* `LineReader.openDepth` and `LineReader.isComplete`: the bracket count of an entry.
-/

namespace Concat.LineReader

/-- The bytes of `bs`, cut after each line feed; `cur` holds the line begun so far, the
    latest byte first. -/
def rawLinesFrom : List UInt8 → List UInt8 → List ByteArray
  | [], cur => if cur.isEmpty then [] else [⟨cur.reverse.toArray⟩]
  | b :: bs, cur =>
    if b = 10 then ⟨(b :: cur).reverse.toArray⟩ :: rawLinesFrom bs []
    else rawLinesFrom bs (b :: cur)

/-- The lines of the input as they are read: each ends after a line feed, and the last one
    may have none. -/
def rawLines (input : ByteArray) : List ByteArray :=
  rawLinesFrom input.toList []

/-- Drops the last `n` bytes of a text given by its characters, the latest first; nothing
    when the cut would fall inside a character. -/
def dropBytes : Nat → List Char → Option (List Char)
  | 0, kept => some kept
  | _ + 1, [] => none
  | n + 1, c :: cs => if c.utf8Size ≤ n + 1 then dropBytes (n + 1 - c.utf8Size) cs else none

/-- Applies the backspaces among the clusters `gs` to the characters kept so far (the latest
    first), given the remembered sizes of the clusters kept (the latest first). -/
def eraseFrom : List (List Char) → List Char → List Nat → Option (List Char)
  | [], kept, _ => some kept
  | g :: gs, kept, sizes =>
    if g = ['\x08'] then
      match sizes with
      | [] => eraseFrom gs kept []
      | n :: rest =>
        match dropBytes n kept with
        | some kept => eraseFrom gs kept rest
        | none => none
    else eraseFrom gs (g.reverse ++ kept) ((g.map Char.utf8Size).sum % 256 :: sizes)

/-- The text after each backspace has deleted the grapheme cluster before it, or nothing when
    a deletion would cut a character in two. -/
def eraseBackspaces (s : String) : Option String :=
  (eraseFrom (Text.clusters s.toList) [] []).map fun kept => String.ofList kept.reverse

/-- How many `[` are left open at the end of a text, counting `]` down but never below
    zero. -/
def openDepth (s : String) : Nat :=
  s.toList.foldl (fun d c => if c = '[' then d + 1 else if c = ']' then d - 1 else d) 0

/-- Whether an entry is complete: it leaves no `[` open. -/
def isComplete (s : String) : Bool := openDepth s == 0

/-- A line without its line feed and then without a carriage return before it; the flags say
    which were there. -/
def stripEnd (s : String) : String × Bool × Bool :=
  if s.endsWith "\n" then
    let t := String.ofList s.toList.dropLast
    if t.endsWith "\r" then (String.ofList t.toList.dropLast, true, true) else (t, false, true)
  else (s, false, false)

example : eraseBackspaces "ab\x08c" = some "ac" ∧ openDepth "]] [a [b]" = 1 := by
  decide +kernel

end Concat.LineReader
