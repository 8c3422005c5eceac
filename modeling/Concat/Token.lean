import Concat.Text.Blank
import Concat.Span
import Concat.Tree.Basic

/-!
# Tokens

A text is read as a sequence of *tokens*. The brackets `[` and `]` are tokens on their own,
wherever they stand. A *word* is a longest run of characters that are neither blanks nor
brackets. Blanks separate tokens and are dropped. Each token keeps the span of bytes it came
from.

Tokens can also be given as bare strings: the strings `[` and `]` are brackets, and every other
string, even the empty one or one with a blank inside, is a word. Such tokens have the span
`Span.origin`.

* `Token.scan`: the tokens of a text, left to right, and `Token.strings`: their texts;
* `Lexeme.text` and `Lexeme.ofText`: a lexeme as a string and back;
* `Tree.lexemes`: the lexemes that spell a tree, from which it is read back.
-/

namespace Concat

/-- What a token is, apart from where it stands. -/
inductive Lexeme where
  /-- The bracket `[`, which opens a quotation. -/
  | openBracket
  /-- The bracket `]`, which closes a quotation. -/
  | closeBracket
  /-- A word. -/
  | word (text : String)
  deriving DecidableEq, Repr, Inhabited

namespace Lexeme

/-- The text a lexeme stands for. -/
def text : Lexeme → String
  | openBracket => "["
  | closeBracket => "]"
  | word w => w

/-- The lexeme a bare string stands for: a bracket when it is one, else a word. -/
def ofText (s : String) : Lexeme :=
  if s = "[" then openBracket else if s = "]" then closeBracket else word s

end Lexeme

/-- A lexeme, with the span of bytes it was read from. -/
structure Token where
  /-- What the token is. -/
  lexeme : Lexeme
  /-- Where it stands. -/
  span : Span
  deriving DecidableEq, Repr, Inhabited

namespace Token

/-- A character that can stand in a word: neither a blank nor a bracket. -/
def isWordChar (c : Char) : Bool :=
  !Text.isBlank c && c != '[' && c != ']'

/-- The number of bytes that a list of characters takes in UTF-8. -/
def byteLength (cs : List Char) : Nat :=
  cs.foldr (fun c n => c.utf8Size + n) 0

/-- The tokens of the characters `cs`, whose first byte stands at offset `pos`. -/
def scanFrom (pos : Nat) : List Char → List Token
  | [] => []
  | c :: cs =>
    if c = '[' then ⟨.openBracket, ⟨pos, pos + 1⟩⟩ :: scanFrom (pos + 1) cs
    else if c = ']' then ⟨.closeBracket, ⟨pos, pos + 1⟩⟩ :: scanFrom (pos + 1) cs
    else if Text.isBlank c then scanFrom (pos + c.utf8Size) cs
    else
      let w := c :: cs.takeWhile isWordChar
      let stop := pos + byteLength w
      ⟨.word (String.ofList w), ⟨pos, stop⟩⟩ :: scanFrom stop (cs.dropWhile isWordChar)
termination_by cs => cs.length
decreasing_by
  all_goals simp only [List.length_cons]
  · omega
  · omega
  · omega
  · have := (List.dropWhile_suffix isWordChar (l := cs)).length_le
    omega

/-- The tokens of a text, left to right. -/
def scan (s : String) : List Token :=
  scanFrom 0 s.toList

/-- The texts of the tokens of a text, left to right: a bracket, or the characters of a word. -/
def strings (s : String) : List String :=
  (scan s).map (·.lexeme.text)

/-- A bare string read as a token: its lexeme, at `Span.origin`. -/
def ofText (s : String) : Token :=
  ⟨Lexeme.ofText s, Span.origin⟩

end Token

namespace Tree

mutual

/-- The lexemes that spell a tree: a symbol is one word, and a quotation is its items'
    lexemes between an opening and a closing bracket. -/
def lexemes : Tree → List Lexeme
  | .symbol s => [.word s]
  | .quotation items => .openBracket :: lexemesList items ++ [.closeBracket]

/-- The lexemes of a list of trees, one tree after another. -/
def lexemesList : List Tree → List Lexeme
  | [] => []
  | t :: ts => lexemes t ++ lexemesList ts

end

@[simp] theorem lexemes_symbol (s : String) : (symbol s).lexemes = [.word s] := by
  simp [lexemes]

@[simp] theorem lexemes_quotation (items : List Tree) :
    (quotation items).lexemes = .openBracket :: (lexemesList items ++ [.closeBracket]) := by
  simp [lexemes]

@[simp] theorem lexemesList_nil : lexemesList [] = [] := by
  simp [lexemesList]

@[simp] theorem lexemesList_cons (t : Tree) (ts : List Tree) :
    lexemesList (t :: ts) = t.lexemes ++ lexemesList ts := by
  simp [lexemesList]

end Tree

example : (Token.scan "[ab c]").map (·.span) = [⟨0, 1⟩, ⟨1, 3⟩, ⟨4, 5⟩, ⟨5, 6⟩] := by
  decide +kernel

end Concat
