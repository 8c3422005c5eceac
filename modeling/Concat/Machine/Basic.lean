import Concat.Stack
import Concat.Program
import Concat.Dictionary

/-!
# The stack machine

A *state* of the machine is a dictionary, a stack and a program. One *step* looks at the front
of the program and the top of the stack and applies the first of these rules that matches:

1. `cons`: the program starts with the symbol `cons`, and the stack has a quotation `[q…]` on
   top of a value `v`: both are replaced by the quotation `[v q…]`;
2. `snoc`: the program starts with the symbol `snoc`, and a quotation `[v q…]` with at least one
   item is on top: it is replaced by `v` with `[q…]` on top of it;
3. `eq`: the program starts with the symbol `eq`, and four values `x y t f` are on top (`f`
   the top one): they are replaced by `t` when `x` and `y` are equal trees, else by `f`;
4. `let`: the program starts with a symbol `n` followed by the symbol `let`, and the stack is
   not empty: the top value is popped and bound to `n`;
5. otherwise the front tree `w` is taken off the program and *dispatched*: a symbol bound to a
   symbol is replaced by that symbol (`alias`), a symbol bound to a quotation by the quotation's
   items (`expand`), and anything else is pushed (`push`).

The three primitive words act only when the stack has their shape; otherwise they are words
like any other. The rules `cons`, `snoc` and `eq` remove the primitive word from the program.

A step never fails, with one exception: a `cons` whose value `v` is already
`Tree.nestingLimit` deep would build a quotation deeper than the limit. The step is then
*refused*, and the state stays as it was. A state whose program is empty is *done*.

The step is taken as the machine takes it. A primitive word takes the trees it needs off the
top of the stack (`Stack.takeTop?`) and looks at them; when they do not have its shape, or a
`cons` is refused, it pushes them back (`Stack.extend`), so the stack is as it was. Only then
are `let` and dispatch tried. Dispatch takes the word off the program and puts what it is bound
to in front of the rest (`Program.prepend`).

* `Stack.applyCons`, `Stack.applySnoc` and `Stack.applyEq`: a primitive on the stack;
* `State.step`: the rule that applies, and the state it gives;
* `State.render`: the stack and the program, separated by a bar.
-/

namespace Concat

/-- The rules of the machine, as reported for every step. -/
inductive Rule where
  /-- Put a value into the quotation above it. -/
  | cons
  /-- Take the first item out of a quotation. -/
  | snoc
  /-- Choose between two values by comparing two others. -/
  | eq
  /-- Bind a name to the top value (the word `let`). -/
  | bind
  /-- Replace a symbol by the symbol bound to it. -/
  | rename
  /-- Replace a symbol by the items of the quotation bound to it. -/
  | expand
  /-- Push the front tree. -/
  | push
  deriving DecidableEq, Repr, Inhabited

namespace Rule

/-- The name a rule is reported by. -/
def name : Rule → String
  | cons => "cons"
  | snoc => "snoc"
  | eq => "eq"
  | bind => "let"
  | rename => "alias"
  | expand => "expand"
  | push => "push"

end Rule

/-- The words that change the machine's state themselves, rather than through the
    dictionary. -/
def primitives : List String := ["cons", "snoc", "eq", "let"]

/-- What a primitive word does to the stack. In each case the stack it leaves is given: a
    primitive that does not fire puts back the trees it took to look at. -/
inductive Outcome where
  /-- The trees on top have the word's shape: the stack it makes of them. -/
  | fired (stack : Stack)
  /-- They do not. -/
  | unmatched (stack : Stack)
  /-- A `cons` would nest quotations too deeply. -/
  | refused (stack : Stack)
  deriving DecidableEq, Repr, Inhabited

namespace Stack

/-- `cons`: a quotation `[q…]` on top of a value `v` becomes `[v q…]`, unless `v` is already
    `Tree.nestingLimit` deep, when the new quotation would be deeper than the limit. -/
def applyCons (st : Stack) : Outcome :=
  match st.takeTop? 2 with
  | some ([v, .quotation q], below) =>
    if Tree.nestingLimit ≤ v.depth then .refused (below.extend [v, .quotation q])
    else .fired (below.push (.quotation (v :: q)))
  | some (other, below) => .unmatched (below.extend other)
  | none => .unmatched st

/-- `snoc`: a quotation `[v q…]` with at least one item on top becomes `v` under `[q…]`. -/
def applySnoc (st : Stack) : Outcome :=
  match st.takeTop? 1 with
  | some ([.quotation (v :: q)], below) => .fired ((below.push v).push (.quotation q))
  | some (other, below) => .unmatched (below.extend other)
  | none => .unmatched st

/-- `eq`: four values `x y t f` on top (`f` the top one) become `t` when `x` and `y` are equal
    trees, else `f`. -/
def applyEq (st : Stack) : Outcome :=
  match st.takeTop? 4 with
  | some ([x, y, t, f], below) => .fired (below.push (if x = y then t else f))
  -- Four trees are taken whenever any are, so this puts back nothing that was taken.
  | some (other, below) => .unmatched (below.extend other)
  | none => .unmatched st

/-- The rule that the front word names when it is the primitive `cons`, `snoc` or `eq`, with
    what the primitive does to the stack; nothing for any other word. -/
def tryPrimitive (st : Stack) : Tree → Option (Rule × Outcome)
  | .symbol "cons" => some (.cons, st.applyCons)
  | .symbol "snoc" => some (.snoc, st.applySnoc)
  | .symbol "eq" => some (.eq, st.applyEq)
  | _ => none

end Stack

/-- A state of the machine. -/
structure State where
  /-- The names bound so far. -/
  dictionary : Dictionary
  /-- The values, the top first. -/
  stack : Stack
  /-- What is left to do. -/
  program : Program
  deriving DecidableEq, Repr, Inhabited

/-- What one step does to a state. -/
inductive Step where
  /-- The program is empty: there is nothing left to do. -/
  | done
  /-- The rule applied, and the state it gave. -/
  | next (rule : Rule) (state : State)
  /-- A `cons` would nest quotations too deeply; the state stays as it was. -/
  | refused
  deriving DecidableEq, Repr, Inhabited

namespace State

/-- The state that starts a program from a dictionary and a stack. -/
def start (d : Dictionary) (s : Stack) (p : List Tree) : State := ⟨d, s, ⟨p⟩⟩

/-- Dispatches the front tree `w`, taken off ahead of `rest`: a symbol bound to a symbol is
    replaced by it, a symbol bound to a quotation by its items, and anything else is pushed. -/
def dispatch (s : State) (w : Tree) (rest : List Tree) : Step :=
  let pushed := Step.next .push { s with stack := s.stack.push w, program := ⟨rest⟩ }
  match w with
  | .symbol n =>
    match s.dictionary.get? n with
    | some (.symbol a) => .next .rename { s with program := (Program.mk rest).prepend [.symbol a] }
    | some (.quotation body) => .next .expand { s with program := (Program.mk rest).prepend body }
    | none => pushed
  | .quotation _ => pushed

/-- The rule `let` when the front word `w` is a name followed by `let` in `rest` and the stack
    is not empty: the top value is popped and bound to the name. Otherwise `w` is dispatched. -/
def bindOrDispatch (s : State) (w : Tree) (rest : List Tree) : Step :=
  match w, rest, s.stack.pop? with
  | .symbol n, .symbol "let" :: rest', some (v, below) =>
    .next .bind ⟨s.dictionary.define n v, below, ⟨rest'⟩⟩
  | _, _, _ => s.dispatch w rest

/-- One step of the machine: the first rule that matches, in the order `cons`, `snoc`, `eq`,
    `let`, dispatch. A primitive word whose shape is not on the stack leaves the stack as it
    found it and falls through to `let` and dispatch, like any word. -/
def step (s : State) : Step :=
  match s.program.items with
  | [] => .done
  | w :: rest =>
    match s.stack.tryPrimitive w with
    | some (r, .fired st) => .next r { s with stack := st, program := ⟨rest⟩ }
    | some (_, .refused _) => .refused
    | some (_, .unmatched st) => { s with stack := st }.bindOrDispatch w rest
    | none => s.bindOrDispatch w rest

/-- A state is written as its stack, a bar, and its program: `a [] | cons`. -/
def render (s : State) : String :=
  s.stack.render ++ " | " ++ s.program.render

end State

end Concat
