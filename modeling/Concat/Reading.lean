import Concat.Token

/-!
# Reading tokens into trees

Tokens are read into a list of trees: a word is a symbol, and the tokens between a `[` and the
`]` that closes it are the items of a quotation.

Reading never fails. Where the brackets do not match, it repairs the text and records an
*issue*:

* a `]` that closes nothing (at the outermost level) ends the reading there: the tokens after
  it are dropped, and the issue `strayClose` is recorded;
* a `[` that would open a quotation deeper than `Tree.nestingLimit` ends the reading there: the
  quotations still open are closed, and the issue `tooDeep` is recorded;
* at the end of the tokens every quotation still open is closed, and an issue `unclosedOpen`
  is recorded for each, the innermost first.

So a reading has no issue, one `strayClose`, one `tooDeep`, or one `unclosedOpen` per bracket
left open. *Strict* reading takes the first issue as an error.

* `Reading.ofTokens`: the trees and issues of a token list;
* `Reading.ofText` and `Reading.ofStrings`: the same for a text and for bare strings;
* `Reading.strict`: the trees, or the first issue.
-/

namespace Concat

/-- Where the brackets of a text failed to match, found while reading it. -/
inductive ParseIssue where
  /-- A `]` that closes nothing. -/
  | strayClose (span : Span)
  /-- A `[` that is never closed. -/
  | unclosedOpen (span : Span)
  /-- A `[` that would nest quotations deeper than `Tree.nestingLimit`. -/
  | tooDeep (span : Span)
  deriving DecidableEq, Repr, Inhabited

namespace ParseIssue

/-- The bracket at which the issue was found. -/
def span : ParseIssue → Span
  | strayClose s | unclosedOpen s | tooDeep s => s

/-- What went wrong, without the place. -/
def summary : ParseIssue → String
  | strayClose _ => "unmatched ']'"
  | unclosedOpen _ => "'[' is never closed"
  | tooDeep _ => "quotations nested deeper than " ++ toString Tree.nestingLimit ++ " levels"

/-- The one-line message of an issue, with the span of its bracket. -/
def message (i : ParseIssue) : String :=
  "Parse Error [at " ++ i.span.render ++ "]: " ++ i.summary

end ParseIssue

/-- The trees read from a list of tokens, with the issues found on the way. -/
structure Reading where
  /-- The trees read, the repairs made. -/
  trees : List Tree
  /-- The issues, in the order they were found. -/
  issues : List ParseIssue
  deriving Repr, Inhabited

namespace Reading

/-- A quotation still open while reading: the span of its `[`, and its items so far, the
    latest first. -/
structure Frame where
  /-- Where the quotation's `[` stands. -/
  opening : Span
  /-- The items read so far, the latest first. -/
  items : List Tree

/-- Adds a tree after the items read so far: to the innermost open quotation, or to the
    outermost level (`top`, latest first) when none is open. -/
def addItem (t : Tree) : List Frame → List Tree → List Frame × List Tree
  | [], top => ([], t :: top)
  | f :: fs, top => (⟨f.opening, t :: f.items⟩ :: fs, top)

/-- Closes every open quotation, innermost first, and gives the trees of the outermost
    level in order. -/
def closeAll : List Frame → List Tree → List Tree
  | [], top => top.reverse
  | [f], top => (.quotation f.items.reverse :: top).reverse
  | f :: g :: fs, top => closeAll (⟨g.opening, .quotation f.items.reverse :: g.items⟩ :: fs) top
termination_by fs => fs.length

/-- Reads the tokens that follow, given the open quotations (innermost first) and the trees
    of the outermost level read so far (latest first). -/
def readFrom : List Token → List Frame → List Tree → Reading
  | [], frames, top =>
    ⟨closeAll frames top, frames.map fun f => .unclosedOpen f.opening⟩
  | ⟨.openBracket, sp⟩ :: ts, frames, top =>
    -- One level too many stops the whole reading: what is open is closed as it stands,
    -- and no other issue is reported.
    if Tree.nestingLimit ≤ frames.length then ⟨closeAll frames top, [.tooDeep sp]⟩
    else readFrom ts (⟨sp, []⟩ :: frames) top
  -- A `]` with nothing open ends the reading; the tokens after it are dropped.
  | ⟨.closeBracket, sp⟩ :: _, [], top => ⟨top.reverse, [.strayClose sp]⟩
  | ⟨.closeBracket, _⟩ :: ts, f :: fs, top =>
    let (fs', top') := addItem (.quotation f.items.reverse) fs top
    readFrom ts fs' top'
  | ⟨.word w, _⟩ :: ts, frames, top =>
    let (frames', top') := addItem (.symbol w) frames top
    readFrom ts frames' top'

/-- The trees and issues of a list of tokens. -/
def ofTokens (ts : List Token) : Reading :=
  readFrom ts [] []

/-- The trees and issues of a text. -/
def ofText (s : String) : Reading :=
  ofTokens (Token.scan s)

/-- The trees and issues of bare strings, each read as a token by `Token.ofText`. -/
def ofStrings (ss : List String) : Reading :=
  ofTokens (ss.map Token.ofText)

/-- The trees of a reading with no issue, or else its first issue. -/
def strict (r : Reading) : Except ParseIssue (List Tree) :=
  match r.issues with
  | [] => .ok r.trees
  | i :: _ => .error i

end Reading

example : (Reading.ofText "a [b [c").issues =
    [.unclosedOpen ⟨5, 6⟩, .unclosedOpen ⟨2, 3⟩] := by
  decide +kernel

example : (Reading.ofText "[a] b ] c").issues.map ParseIssue.message =
    ["Parse Error [at 6..7]: unmatched ']'"] := by
  decide +kernel

end Concat
