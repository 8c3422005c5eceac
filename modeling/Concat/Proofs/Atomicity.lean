import Concat.Session
import Concat.Proofs.Runs

/-!
# Sessions, one operation at a time

A session is used through a handful of operations (`Session.Op`): evaluating an input, plainly
or with an observer folded over its steps, emptying the stack, and changing the two settings.
Each operation is atomic. An evaluation either succeeds, and the session takes the dictionary
and the stack of the finished run, or it fails, and the session is exactly as it was
(`Session.Effect`). What an observer does never changes what an evaluation gives. Performing
operations in turn (`Session.performAll`) thus has the effect of each operation on the session
the one before it left (`Session.Effects`), so a failed input leaves no trace for the inputs
after it.

* `State.driveOn_map_snd` and `State.run_map_snd`: the outcome of a run does not depend on its
  observer;
* `Session.evalObserving_map_snd`: neither does the outcome of an evaluation;
* `Session.perform_eq_some_iff`: one operation, against its effect;
* `Session.session_effects`: every sequence of operations, against the effects in turn.
-/

namespace Concat

namespace State

variable {β : Type}

/-- A run without a limit ends the same way whatever its observer gathers. -/
theorem driveOn_map_snd (see : β → Rule → State → β) (fuel : Nat) (s : State) (acc : β) :
    (s.driveOn see fuel acc).map (·.2) = (s.driveOn (fun _ _ _ => ()) fuel ()).map (·.2) := by
  induction fuel generalizing s acc with
  | zero => rfl
  | succ fuel ih =>
    simp only [driveOn]
    cases s.step with
    | done => rfl
    | refused => rfl
    | next r t => exact ih t _

/-- A run ends the same way whatever its observer gathers, with a limit or without. -/
theorem run_map_snd (limit : Option Nat) (fuel : Nat) (see : β → Rule → State → β) (s : State)
    (acc : β) :
    (s.run limit fuel see acc).map (·.2) = (s.run limit fuel (fun _ _ _ => ()) ()).map (·.2) := by
  cases limit with
  | some n =>
    obtain ⟨tr, t, -, -, hrun⟩ := run_some_gathers s n
    rw [hrun see acc fuel, hrun (fun _ _ _ => ()) () fuel]
    rfl
  | none => exact driveOn_map_snd see fuel s acc

end State

namespace Session

/-! ## Evaluations -/

/-- An evaluation gives the same outcome whatever its observer gathers. -/
theorem evalObserving_map_snd {β : Type} (see : β → Rule → State → β) (acc : β) (fuel : Nat)
    (ss : Session) (text : String) :
    (ss.evalObserving see acc fuel text).map (·.2) = ss.eval fuel text := by
  unfold eval evalObserving
  cases ss.program text with
  | error i => rfl
  | ok trees =>
    -- Both outcomes are read off the outcome of the run, which ignores the observer.
    have hrun := State.run_map_snd ss.limit fuel see (State.start ss.dictionary ss.stack trees) acc
    rcases h₁ : State.run ss.limit fuel see (State.start ss.dictionary ss.stack trees) acc with
      _ | ⟨seen, r⟩ <;>
    rcases h₂ : State.run ss.limit fuel (fun _ _ _ => ()) (State.start ss.dictionary ss.stack trees)
      () with _ | ⟨u, r'⟩ <;>
    simp only [h₁, h₂, Option.map_none, Option.map_some, Option.some.injEq, reduceCtorEq] at hrun ⊢
    subst hrun
    cases r <;> rfl

/-- An evaluation succeeds exactly when the input reads and the run on it from the session's
    dictionary and stack finishes; the session then takes the dictionary and the stack it
    finished with, and keeps its settings. -/
theorem eval_eq_some_ok_iff {fuel : Nat} {ss ss' : Session} {text : String} :
    ss.eval fuel text = some (.ok ss') ↔ ∃ trees t, ss.program text = .ok trees ∧
      (State.start ss.dictionary ss.stack trees).run ss.limit fuel (fun _ _ _ => ()) () =
        some ((), .ok t) ∧
      ss' = { ss with dictionary := t.dictionary, stack := t.stack } := by
  unfold eval evalObserving
  cases ss.program text with
  | error i => simp
  | ok trees =>
    simp only [Option.map_map, Except.ok.injEq, exists_and_left, exists_eq_left']
    constructor
    · intro h
      obtain ⟨⟨u, r⟩, hrun, hr⟩ := Option.map_eq_some_iff.1 h
      cases r with
      | ok t =>
        cases hr
        exact ⟨t, hrun, rfl⟩
      | error e => cases hr
    · rintro ⟨t, hrun, rfl⟩
      rw [hrun]
      rfl

/-- An evaluation fails exactly when the input does not read strictly, or when the run on it
    fails; the problem says which. -/
theorem eval_eq_some_error_iff {fuel : Nat} {ss : Session} {text : String} {p : Problem} :
    ss.eval fuel text = some (.error p) ↔ (∃ i, ss.program text = .error i ∧ p = .parse i) ∨
      ∃ trees e, ss.program text = .ok trees ∧
        (State.start ss.dictionary ss.stack trees).run ss.limit fuel (fun _ _ _ => ()) () =
          some ((), .error e) ∧ p = .eval e := by
  unfold eval evalObserving
  cases ss.program text with
  | error i =>
    simp only [Option.map_some, Option.some.injEq, Except.error.injEq]
    constructor
    · rintro rfl
      exact .inl ⟨i, rfl, rfl⟩
    · rintro (⟨i', hi, rfl⟩ | ⟨trees, e, htrees, -⟩)
      · cases hi
        rfl
      · cases htrees
  | ok trees =>
    simp only [Option.map_map]
    constructor
    · intro h
      obtain ⟨⟨u, r⟩, hrun, hr⟩ := Option.map_eq_some_iff.1 h
      cases r with
      | ok t => cases hr
      | error e =>
        cases hr
        exact .inr ⟨trees, e, rfl, hrun, rfl⟩
    · rintro (⟨i, hi, -⟩ | ⟨trees', e, htrees, hrun, rfl⟩)
      · cases hi
      · cases htrees
        rw [hrun]
        rfl

/-! ## Operations -/

/-- What evaluating `text` does to the session `ss`: it succeeds when the input reads (strictly
    when the session is strict) and the run on it from the session's dictionary and stack
    finishes, and the session then takes the dictionary and the stack the run finished with;
    otherwise it reports the problem, of reading or of the run, and the session is kept. -/
def Evaluates (fuel : Nat) (ss : Session) (text : String) : Except Problem Unit × Session → Prop
  | (.ok (), ss') => ∃ trees t, ss.program text = .ok trees ∧
      (State.start ss.dictionary ss.stack trees).run ss.limit fuel (fun _ _ _ => ()) () =
        some ((), .ok t) ∧
      ss' = { ss with dictionary := t.dictionary, stack := t.stack }
  | (.error p, ss') => ss' = ss ∧ ((∃ i, ss.program text = .error i ∧ p = .parse i) ∨
      ∃ trees e, ss.program text = .ok trees ∧
        (State.start ss.dictionary ss.stack trees).run ss.limit fuel (fun _ _ _ => ()) () =
          some ((), .error e) ∧ p = .eval e)

/-- What an operation does to a session: an evaluation, with an observer or without, as
    `Evaluates` says; emptying the stack keeps the dictionary and the settings; a setter changes
    its own setting and nothing else. -/
def Effect (fuel : Nat) (ss : Session) : Op → Except Problem Unit × Session → Prop
  | .eval text, r => Evaluates fuel ss text r
  | .evalObserving _ _ text, r => Evaluates fuel ss text r
  | .clearStack, r => r = (.ok (), { ss with stack := .empty })
  | .setStrict b, r => r = (.ok (), { ss with strict := b })
  | .setLimit n, r => r = (.ok (), { ss with limit := n })

/-- The effects of operations in turn, each on the session the one before it left. -/
def Effects (fuel : Nat) : Session → List Op → List (Except Problem Unit × Session) → Prop
  | _, [], [] => True
  | ss, op :: ops, r :: rs => Effect fuel ss op r ∧ Effects fuel r.2 ops rs
  | _, _, _ => False

/-- An evaluation, as an operation, has the effect `Evaluates` says. -/
theorem eval_settle_eq_some_iff {fuel : Nat} {ss : Session} {text : String}
    {r : Except Problem Unit × Session} :
    (ss.eval fuel text).map ss.settle = some r ↔ Evaluates fuel ss text r := by
  obtain ⟨o, ss'⟩ := r
  rw [Option.map_eq_some_iff]
  cases o with
  | ok u =>
    cases u
    constructor
    · rintro ⟨_ | ss'', h, hr⟩
      · cases hr
      · cases hr
        exact eval_eq_some_ok_iff.1 h
    · intro h
      exact ⟨.ok ss', eval_eq_some_ok_iff.2 h, rfl⟩
  | error p =>
    constructor
    · rintro ⟨_ | ss'', h, hr⟩
      · cases hr
        exact ⟨rfl, eval_eq_some_error_iff.1 h⟩
      · cases hr
    · rintro ⟨rfl, h⟩
      exact ⟨.error p, eval_eq_some_error_iff.2 h, rfl⟩

/-- Performing an evaluation with an observer gives what performing it without one gives. -/
theorem perform_evalObserving {β : Type} (fuel : Nat) (ss : Session)
    (see : β → Rule → State → β) (acc : β) (text : String) :
    ss.perform fuel (.evalObserving see acc text) = ss.perform fuel (.eval text) := by
  simp only [perform]
  rw [← evalObserving_map_snd see acc fuel ss text, Option.map_map]
  rfl

/-- One operation, against its effect. -/
theorem perform_eq_some_iff (fuel : Nat) (ss : Session) (op : Op)
    (r : Except Problem Unit × Session) : ss.perform fuel op = some r ↔ Effect fuel ss op r := by
  cases op with
  | eval text => exact eval_settle_eq_some_iff
  | evalObserving see acc text =>
    rw [perform_evalObserving]
    exact eval_settle_eq_some_iff
  | clearStack => simp only [perform, Effect, Option.some.injEq, eq_comm]; rfl
  | setStrict b => simp only [perform, Effect, Option.some.injEq, eq_comm]; rfl
  | setLimit n => simp only [perform, Effect, Option.some.injEq, eq_comm]; rfl

/-- Performing operations gives an outcome for each. -/
theorem performAll_cons_ne_nil (fuel : Nat) (ss : Session) (op : Op) (ops : List Op) :
    ss.performAll fuel (op :: ops) ≠ some [] := by
  simp only [performAll]
  cases ss.perform fuel op with
  | none => simp
  | some r => simp

/-- Performing operations in turn is performing the first, then the others on the session it
    left. -/
theorem performAll_cons_eq_some_iff {fuel : Nat} {ss : Session} {op : Op} {ops : List Op}
    {r : Except Problem Unit × Session} {rs : List (Except Problem Unit × Session)} :
    ss.performAll fuel (op :: ops) = some (r :: rs) ↔
      ss.perform fuel op = some r ∧ r.2.performAll fuel ops = some rs := by
  simp only [performAll]
  cases ss.perform fuel op with
  | none => simp
  | some r' =>
    simp only [Option.map_eq_some_iff, List.cons.injEq, Option.some.injEq]
    constructor
    · rintro ⟨rs', hrs', rfl, rfl⟩
      exact ⟨rfl, hrs'⟩
    · rintro ⟨rfl, hrs⟩
      exact ⟨rs, hrs, rfl, rfl⟩

/-- Operations in turn, against their effects in turn. -/
theorem performAll_eq_some_iff (fuel : Nat) (ss : Session) (ops : List Op)
    (rs : List (Except Problem Unit × Session)) :
    ss.performAll fuel ops = some rs ↔ Effects fuel ss ops rs := by
  induction ops generalizing ss rs with
  | nil => cases rs <;> simp [performAll, Effects]
  | cons op ops ih =>
    cases rs with
    | nil =>
      -- No effect of operations leaves no outcome.
      exact iff_of_false (performAll_cons_ne_nil fuel ss op ops) id
    | cons r rs => rw [performAll_cons_eq_some_iff, perform_eq_some_iff, ih]; rfl

/-- Sessions are atomic over whole sequences of operations. One operation has exactly its
    effect: an evaluation that succeeds leaves the dictionary and the stack of the run on the
    input (read strictly when the session is strict) from the session's dictionary and stack,
    one that fails, in reading or in the run, leaves the session exactly as it was; emptying
    the stack keeps the dictionary; and the settings change only through their setters. An
    observer changes nothing of what an evaluation gives. So every sequence of operations has
    the effect of each operation, in turn, on the session the one before it left. -/
theorem session_effects (fuel : Nat) :
    (∀ (ss : Session) op r, ss.perform fuel op = some r ↔ Effect fuel ss op r) ∧
    (∀ (ss : Session) ops rs, ss.performAll fuel ops = some rs ↔ Effects fuel ss ops rs) ∧
    (∀ {β : Type} (see : β → Rule → State → β) (acc : β) (ss : Session) (text : String),
      ss.perform fuel (.evalObserving see acc text) = ss.perform fuel (.eval text)) :=
  ⟨perform_eq_some_iff fuel, performAll_eq_some_iff fuel,
    fun see acc ss text => perform_evalObserving fuel ss see acc text⟩

end Session

end Concat
