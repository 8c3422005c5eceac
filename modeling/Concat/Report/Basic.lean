import Concat.Session

/-!
# Diagnostics

A *diagnostic* explains a failed evaluation to a reader: a headline, a stretch of the input
marked with a label, and sometimes a note. A reading issue marks its bracket; a failed run marks
the whole input, since no single part of it is to blame.

* `ParseIssue.diagnostic`, `EvalError.diagnostic` and `Problem.diagnostic`: the diagnostic of
  each kind of failure.
-/

namespace Concat

/-- What a report says about a failure, and where. -/
structure Diagnostic where
  /-- The headline. -/
  message : String
  /-- The bytes of the input it is about. -/
  span : Span
  /-- What is said under them. -/
  label : String
  /-- A remark after the input, if any. -/
  note : Option String
  deriving DecidableEq, Repr, Inhabited

/-- The diagnostic of a reading issue: it marks the bracket. -/
def ParseIssue.diagnostic (i : ParseIssue) : Diagnostic :=
  match i with
  | .strayClose sp => ⟨"Unmatched ']'", sp, "This bracket closes nothing", none⟩
  | .unclosedOpen sp => ⟨"Unclosed '['", sp, "This quotation is never closed", none⟩
  | .tooDeep sp =>
    ⟨"Quotations nested deeper than " ++ toString Tree.nestingLimit ++ " levels", sp,
      "Parsing stopped at this bracket", none⟩

/-- The diagnostic of a failed run of the input `text`: it marks the whole input. -/
def EvalError.diagnostic (text : String) (e : EvalError) : Diagnostic :=
  let whole : Span := ⟨0, text.utf8ByteSize⟩
  match e with
  | .limitExceeded n =>
    ⟨"Expansion limit of " ++ toString n ++ " steps exceeded", whole,
      "Evaluating this input did not reach an empty program",
      some "Raise the ceiling with `:limit <n>` or disable it with `:limit off`"⟩
  | .tooDeep =>
    ⟨"Quotations nested deeper than " ++ toString Tree.nestingLimit ++ " levels", whole,
      "Evaluating this input kept wrapping a value in quotations",
      some "A `cons` onto a value this deep is refused"⟩

/-- The diagnostic of a failed evaluation of the input `text`. -/
def Problem.diagnostic (text : String) : Problem → Diagnostic
  | .parse i => i.diagnostic
  | .eval e => e.diagnostic text

end Concat
