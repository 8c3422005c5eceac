import Concat.Token
import Concat.Machine.Basic

/-!
# Word completion

At the cursor of a line being typed, the word just before it can be completed. The line up to
the cursor is read into tokens; when the last one is a word that ends exactly at the cursor,
the candidates are the rests of the bound names and primitive words that start with it: the
characters they add after it. A name equal to the word adds nothing and is left out. The
candidates are sorted and each appears once.

* `Console.textBefore?`: the line up to a byte offset, when the offset falls between characters;
* `Console.completions`: the candidates for the word before the cursor;
* `Console.complete`: the completer's answer, the place where the candidates start and the
  candidates.
-/

namespace Concat.Console

/-- The characters of `cs` that start before the byte offset `n`, the first of them at byte
    `pos`, when `n` falls between two characters or at the end. -/
def charsBefore? : List Char → Nat → Nat → Option (List Char)
  | [], pos, n => if n = pos then some [] else none
  | c :: cs, pos, n =>
    if n = pos then some []
    else if n < pos + c.utf8Size then none
    else (charsBefore? cs (pos + c.utf8Size) n).map (c :: ·)

/-- The line up to the byte offset `n`, when `n` falls between two characters of the line or at
    its end. -/
def textBefore? (line : String) (n : Nat) : Option String :=
  (charsBefore? line.toList 0 n).map String.ofList

/-- The word that ends exactly at the end of `text`, if its last token is one. -/
def lastWord? (text : String) : Option String :=
  match (Token.scan text).getLast? with
  | some ⟨.word w, sp⟩ => if sp.stop = text.utf8ByteSize then some w else none
  | _ => none

/-- Drops adjacent repeats from a list. -/
def dedup : List String → List String
  | a :: b :: rest => if a = b then dedup (b :: rest) else a :: dedup (b :: rest)
  | l => l

/-- The completions of the word that ends the text before the cursor: the non-empty rests of
    the names bound in `d` and of the primitive words that start with it, sorted, each once. -/
def completions (d : Dictionary) (before : String) : List String :=
  match lastWord? before with
  | none => []
  | some w =>
    let rests := (d.names ++ primitives).filterMap fun name =>
      if w.isPrefixOf name && name ≠ w then some (String.ofList (name.toList.drop w.length))
      else none
    dedup (rests.mergeSort fun a b => decide (a ≤ b))

/-- What the completer answers for a line with the cursor at byte `pos`: the place where the
    candidates start, which is the cursor itself, and the candidates. Nothing when the cursor
    falls inside a character or beyond the end of the line. -/
def complete (d : Dictionary) (line : String) (pos : Nat) : Option (Nat × List String) :=
  (textBefore? line pos).map fun before => (pos, completions d before)

end Concat.Console
