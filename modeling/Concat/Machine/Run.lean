import Concat.Machine.Basic

/-!
# Running the machine

A *run* takes steps until the program is empty or a step is refused. A run with a *limit* `n`
also stops once `n` steps have been taken with the program not yet empty. The number is checked
before each step, so such a run takes at most `n` steps, and a run whose program is already
empty finishes even with the limit zero. A run without a limit may go on for ever, so it is
given *fuel*: it gives nothing (`none`) once the fuel is spent, and so does everything that
waits for it. A run that ends gives the same answer with any fuel that lets it end; the
programs give it `State.allowance`.

An *observer* sees every step that applies a rule, in order, with the rule and the state it
gave; a refused step is not observed. Observing is a fold: `State.drive` threads a value
through the steps, so a run that records nothing and a run that records every step take the
same steps.

* `State.drive`: the run with a limit, its observations, and how it stopped;
* `State.driveOn`: the run without a limit, its observations and outcome, if it ends in time;
* `State.run`: the run with a limit or without one;
* `State.runFor`: the final state of a run with a limit, or why it failed;
* `State.evaluate`: the state where the steps stop, if they stop in time;
* `State.stepTimes`: exactly `n` single steps, each with the state after it.
-/

namespace Concat

/-- Why a run failed. -/
inductive EvalError where
  /-- The given number of steps was taken, and the program was not yet empty. -/
  | limitExceeded (limit : Nat)
  /-- A `cons` would have nested quotations deeper than `Tree.nestingLimit`. -/
  | tooDeep
  deriving DecidableEq, Repr, Inhabited

namespace EvalError

/-- The one-line message of an evaluation error. -/
def message : EvalError → String
  | limitExceeded n =>
    "Evaluation Error: expansion limit exceeded (" ++ toString n ++ " rewrite steps)"
  | tooDeep =>
    "Evaluation Error: cons would nest quotations deeper than " ++ toString Tree.nestingLimit ++
      " levels"

end EvalError

/-- How a run stopped. -/
inductive Stop where
  /-- The program became empty. -/
  | finished
  /-- A step was refused. -/
  | refused
  /-- The steps allowed were taken, and the program was not yet empty. -/
  | outOfSteps
  deriving DecidableEq, Repr, Inhabited

/-- What a run with a limit gives: what the observer gathered, the last state, and how it
    stopped. -/
structure Run (β : Type) where
  /-- What the observer gathered. -/
  seen : β
  /-- The state the run stopped in. -/
  last : State
  /-- Why it stopped. -/
  stop : Stop

namespace Run

/-- The outcome of a run with the limit `n`: its last state when it finished, else the
    error. -/
def result {β : Type} (r : Run β) (n : Nat) : Except EvalError State :=
  match r.stop with
  | .finished => .ok r.last
  | .refused => .error .tooDeep
  | .outOfSteps => .error (.limitExceeded n)

end Run

namespace State

/-- Takes at most `n` steps from `s`, passing each applied rule and the state it gave to
    `see`, starting from `acc`. -/
def drive {β : Type} (see : β → Rule → State → β) : Nat → State → β → Run β
  | 0, s, acc => ⟨acc, s, if s.program.isEmpty then .finished else .outOfSteps⟩
  | n + 1, s, acc =>
    match s.step with
    | .done => ⟨acc, s, .finished⟩
    | .refused => ⟨acc, s, .refused⟩
    | .next r t => drive see n t (see acc r t)

/-- Takes steps from `s` until the program is empty or a step is refused, passing each applied
    rule and the state it gave to `see`, starting from `acc`: what `see` gathered, and the last
    state or the refusal. Each state looked at spends a unit of fuel; with none left, the run
    gives nothing. -/
def driveOn {β : Type} (see : β → Rule → State → β) :
    Nat → State → β → Option (β × Except EvalError State)
  | 0, _, _ => none
  | fuel + 1, s, acc =>
    match s.step with
    | .done => some (acc, .ok s)
    | .refused => some (acc, .error .tooDeep)
    | .next r t => driveOn see fuel t (see acc r t)

/-- Runs with the limit `n` given as `some n`, or without a limit, folding `see` over the
    steps from `acc`: what `see` gathered, and the last state or the error. Only a run without
    a limit draws on `fuel`, and gives nothing when the fuel runs out. -/
def run {β : Type} (limit : Option Nat) (fuel : Nat) (see : β → Rule → State → β) (s : State)
    (acc : β) : Option (β × Except EvalError State) :=
  match limit with
  | some n =>
    let r := s.drive see n acc
    some (r.seen, r.result n)
  | none => s.driveOn see fuel acc

/-- Runs with the limit `n`, observing nothing. -/
def runFor (n : Nat) (s : State) : Except EvalError State :=
  (s.drive (fun _ _ _ => ()) n ()).result n

/-- The state where the steps from `s` stop: the program is empty, or its front is a `cons`
    that was refused. Each state looked at spends a unit of fuel; with none left, nothing. -/
def evaluate : Nat → State → Option State
  | 0, _ => none
  | fuel + 1, s =>
    match s.step with
    | .next _ t => evaluate fuel t
    | _ => some s

/-- The fuel the programs give a run without a limit, `2 ^ 64`: a run that needs more never
    ends in practice. -/
def allowance : Nat := 18446744073709551616

/-- Exactly `n` single steps from `s`, each with the state after it. A step that is done or
    refused leaves the state as it was, so it comes again. -/
def stepTimes : Nat → State → List (Step × State)
  | 0, _ => []
  | n + 1, s =>
    match s.step with
    | .next r t => (.next r t, t) :: stepTimes n t
    | other => (other, s) :: stepTimes n s

end State

end Concat
