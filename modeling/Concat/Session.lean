import Concat.Prelude

/-!
# Sessions

A *session* carries a dictionary and a stack from one input to the next, together with two
settings: whether inputs are read strictly, and the step limit of each run (none for no
limit). Evaluating an input reads it into a program and runs the machine from the session's
dictionary and stack. When the run finishes, its dictionary and stack become the session's;
when reading or running fails, the session is left exactly as it was. A run without a limit is
given fuel (see `State.run`): an input whose run has not ended when the fuel is spent gives
nothing.

* `Session.empty` and `Session.withPrelude`: a fresh session, bare or with the standard words;
* `Session.evalObserving` and `Session.eval`: evaluate an input, the first also folding an
  observer over the steps taken, which it reports even when the evaluation then fails;
* `Session.settle`: the session an evaluation leaves, the one it was made on when it fails;
* `Session.perform` and `Session.performAll`: an operation on a session, and operations in turn.
-/

namespace Concat

/-- Why evaluating an input failed. -/
inductive Problem where
  /-- Strict reading found an issue. -/
  | parse (issue : ParseIssue)
  /-- The run failed. -/
  | eval (error : EvalError)
  deriving DecidableEq, Repr, Inhabited

namespace Problem

/-- The one-line message of a problem. -/
def message : Problem → String
  | parse i => i.message
  | eval e => e.message

end Problem

/-- A dictionary and a stack kept between inputs, with the settings of evaluation. -/
structure Session where
  /-- The names bound so far. -/
  dictionary : Dictionary
  /-- The values left so far. -/
  stack : Stack
  /-- Whether an input with an issue is refused rather than repaired. -/
  strict : Bool
  /-- The most steps one run may take, or none for no limit. -/
  limit : Option Nat
  deriving Repr, Inhabited

namespace Session

/-- A session with nothing bound, an empty stack, repairing reading and no limit. -/
def empty : Session := ⟨.empty, .empty, false, none⟩

/-- A fresh session that holds the standard words. -/
def withPrelude : Session :=
  { empty with dictionary := Prelude.loaded.dictionary, stack := Prelude.loaded.stack }

/-- A fresh session, with the standard words or without. -/
def fresh (prelude : Bool) : Session :=
  if prelude then withPrelude else empty

/-- Sets whether reading is strict. -/
def setStrict (ss : Session) (b : Bool) : Session := { ss with strict := b }

/-- Sets the step limit. -/
def setLimit (ss : Session) (n : Option Nat) : Session := { ss with limit := n }

/-- Empties the stack and keeps the dictionary. -/
def clearStack (ss : Session) : Session := { ss with stack := .empty }

/-- The program an input stands for: strictly read, or repaired. -/
def program (ss : Session) (text : String) : Except ParseIssue (List Tree) :=
  let r := Reading.ofText text
  if ss.strict then r.strict else .ok r.trees

/-- Evaluates an input, folding `see` over the steps taken from `acc`: what the observer
    gathered, and the session after the input, or the problem that left it unchanged. -/
def evalObserving {β : Type} (see : β → Rule → State → β) (acc : β) (fuel : Nat)
    (ss : Session) (text : String) : Option (β × Except Problem Session) :=
  match ss.program text with
  | .error i => some (acc, .error (.parse i))
  | .ok trees =>
    ((State.start ss.dictionary ss.stack trees).run ss.limit fuel see acc).map fun (seen, r) =>
      match r with
      | .ok t => (seen, .ok { ss with dictionary := t.dictionary, stack := t.stack })
      | .error e => (seen, .error (.eval e))

/-- Evaluates an input: the session after it, or the problem that left it unchanged. -/
def eval (fuel : Nat) (ss : Session) (text : String) : Option (Except Problem Session) :=
  (ss.evalObserving (fun _ _ _ => ()) () fuel text).map (·.2)

/-- Evaluates an input, recording every applied rule with the state it gave. -/
def evalTraced (fuel : Nat) (ss : Session) (text : String) :
    Option (Array (Rule × State) × Except Problem Session) :=
  ss.evalObserving (fun acc r t => acc.push (r, t)) #[] fuel text

/-- The outcome of an evaluation as the session keeps it: success and the session after the
    evaluation, or the problem and the session `ss` it was made on, unchanged. -/
def settle (ss : Session) : Except Problem Session → Except Problem Unit × Session
  | .ok ss' => (.ok (), ss')
  | .error p => (.error p, ss)

/-- An operation on a session: evaluate an input, plainly or folding an observer over its steps,
    empty the stack, or change whether reading is strict or the step limit. -/
inductive Op : Type 1 where
  /-- Evaluate an input. -/
  | eval (text : String)
  /-- Evaluate an input, folding `see` over its steps from `acc`. -/
  | evalObserving {β : Type} (see : β → Rule → State → β) (acc : β) (text : String)
  /-- Empty the stack. -/
  | clearStack
  /-- Set whether reading is strict. -/
  | setStrict (strict : Bool)
  /-- Set the step limit. -/
  | setLimit (limit : Option Nat)

/-- Performs an operation: whether it succeeded, and the session after it. An evaluation that
    fails reports its problem and keeps the session; one without a limit that has not ended when
    the fuel is spent gives nothing. -/
def perform (fuel : Nat) (ss : Session) : Op → Option (Except Problem Unit × Session)
  | .eval text => (ss.eval fuel text).map ss.settle
  | .evalObserving see acc text => (ss.evalObserving see acc fuel text).map (ss.settle ·.2)
  | .clearStack => some (.ok (), ss.clearStack)
  | .setStrict b => some (.ok (), ss.setStrict b)
  | .setLimit n => some (.ok (), ss.setLimit n)

/-- Performs operations in turn, each on the session the one before it left: the outcome and
    the session after each. Nothing once an evaluation does not end within the fuel. -/
def performAll (fuel : Nat) : Session → List Op → Option (List (Except Problem Unit × Session))
  | _, [] => some []
  | ss, op :: ops =>
    match ss.perform fuel op with
    | none => none
    | some (o, ss') => (performAll fuel ss' ops).map ((o, ss') :: ·)

end Session

end Concat
