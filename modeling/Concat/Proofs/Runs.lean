import Concat.Machine.Run
import Concat.Proofs.Rules

/-!
# Runs

A *chain* from a state is a sequence of steps that each apply a rule (`State.Chain`): it
records every rule with the state it gave, and ends in the last of them. A state is *final*
when no rule applies to it: its program is empty, or its `cons` is refused (`State.Final`).

Every way of running the machine follows the chain from its state:

* `drive_of_stopping_chain`: a run with the limit `n` follows the chain until the chain reaches
  a final state or has `n` steps (`exists_stopping_chain`), and its observer gathers along it
  (`State.gather`);
* `driveOn_of_final_chain` and `evaluate_of_final_chain`: a run without a limit, and the
  evaluation of a state, end where the chain reaches a final state, once their fuel outlasts
  the chain, and give nothing before (`driveOn_eq_some_iff`, `evaluate_eq_some_iff`);
* `stepTimes_of_refused`: a refused step, taken again and again, is refused every time.

From these, `refusal_is_exact` says what a refused `cons` does to every run, and
`run_limit_semantics` says when a run with or without a limit succeeds or fails.
-/

namespace Concat

namespace State

/-- `s.Chain tr t`: from `s`, the steps apply rules, giving in order the rules and states of
    `tr`, the last of which is `t`. -/
inductive Chain : State → List (Rule × State) → State → Prop
  /-- No step at all. -/
  | nil (s : State) : Chain s [] s
  /-- A step that applies `r`, giving `t`, and the chain from `t`. -/
  | cons {s t u : State} {r : Rule} {tr : List (Rule × State)} (hs : s.step = .next r t)
      (h : Chain t tr u) : Chain s ((r, t) :: tr) u

/-- No rule applies to the state: its program is empty, or its `cons` is refused. -/
def Final (s : State) : Prop :=
  s.step = .done ∨ s.step = .refused

/-- What the observer `see` gathers from `acc` along the steps `tr`, in their order. -/
def gather {β : Type} (see : β → Rule → State → β) (acc : β) (tr : List (Rule × State)) : β :=
  tr.foldl (fun a p => see a p.1 p.2) acc

section Gather

variable {β : Type} (see : β → Rule → State → β) (acc : β)

@[simp] theorem gather_nil : gather see acc [] = acc := rfl

@[simp] theorem gather_cons (r : Rule) (t : State) (tr : List (Rule × State)) :
    gather see acc ((r, t) :: tr) = gather see (see acc r t) tr := rfl

end Gather

/-- A final state is done exactly when its program is empty; otherwise it is refused. -/
theorem Final.step_eq_refused {s : State} (h : s.Final) (hp : s.program.items ≠ []) :
    s.step = .refused :=
  h.resolve_left fun hd => hp (step_eq_done_iff.1 hd)

theorem Chain.length_zero {s t : State} {tr : List (Rule × State)} (h : s.Chain tr t)
    (hl : tr.length = 0) : t = s := by
  cases h with
  | nil => rfl
  | cons => simp at hl

/-- From every state, the chain goes on for `n` steps or reaches a final state before. -/
theorem exists_stopping_chain (n : Nat) (s : State) :
    ∃ tr t, s.Chain tr t ∧ (tr.length = n ∨ (tr.length < n ∧ t.Final)) := by
  induction n generalizing s with
  | zero => exact ⟨[], s, .nil s, .inl rfl⟩
  | succ n ih =>
    cases hs : s.step with
    | done => exact ⟨[], s, .nil s, .inr ⟨by simp, .inl hs⟩⟩
    | refused => exact ⟨[], s, .nil s, .inr ⟨by simp, .inr hs⟩⟩
    | next r t =>
      obtain ⟨tr, u, hc, hstop⟩ := ih t
      refine ⟨(r, t) :: tr, u, .cons hs hc, ?_⟩
      simp only [List.length_cons, Nat.add_right_cancel_iff, Nat.add_lt_add_iff_right]
      exact hstop

section Drive

variable {β : Type} (see : β → Rule → State → β)

/-- A run with a limit follows the chain for as many steps as the limit allows. -/
theorem drive_of_chain {s t : State} {tr : List (Rule × State)} (h : s.Chain tr t) :
    ∀ {n : Nat} (acc : β), tr.length ≤ n →
      s.drive see n acc = t.drive see (n - tr.length) (gather see acc tr) := by
  induction h with
  | nil s => intro n acc _; simp
  | cons hs _ ih =>
    intro n acc hn
    obtain ⟨m, rfl⟩ : ∃ m, n = m + 1 := ⟨n - 1, by simp at hn; omega⟩
    simp only [drive, hs, List.length_cons, Nat.add_sub_add_right, gather_cons]
    exact ih _ (by simpa using hn)

/-- A run with the limit `n` stops where the chain has `n` steps, finished or out of steps as
    the program is empty or not, or where it reaches a final state before. -/
theorem drive_of_stopping_chain {s t : State} {tr : List (Rule × State)} {n : Nat} (acc : β)
    (h : s.Chain tr t) (hstop : tr.length = n ∨ (tr.length < n ∧ t.Final)) :
    s.drive see n acc = ⟨gather see acc tr, t,
      if t.program.items = [] then .finished else if tr.length = n then .outOfSteps
      else .refused⟩ := by
  rw [drive_of_chain see h acc (by omega)]
  rcases hstop with hl | ⟨hl, hf⟩
  · -- The limit is used up: the run stops before another step.
    rw [hl, Nat.sub_self]
    by_cases hp : t.program.items = [] <;> simp [drive, Program.isEmpty, hp]
  · obtain ⟨m, hm⟩ : ∃ m, n - tr.length = m + 1 := ⟨n - tr.length - 1, by omega⟩
    rw [hm]
    rcases hf with hd | hr
    · simp [drive, hd, step_eq_done_iff.1 hd]
    · have hp : t.program.items ≠ [] := fun hp => by
        rw [step_eq_done_iff.2 hp] at hr
        cases hr
      simp [drive, hr, hp, Nat.ne_of_lt hl]

/-- The final state or the error of a run with the limit `n`, where the chain stops it. -/
theorem runFor_of_stopping_chain {s t : State} {tr : List (Rule × State)} {n : Nat}
    (h : s.Chain tr t) (hstop : tr.length = n ∨ (tr.length < n ∧ t.Final)) :
    s.runFor n = if t.program.items = [] then .ok t
      else if tr.length = n then .error (.limitExceeded n) else .error .tooDeep := by
  rw [runFor, drive_of_stopping_chain _ () h hstop]
  by_cases hp : t.program.items = [] <;> by_cases hl : tr.length = n <;> simp [Run.result, hp, hl]

/-- An observer of a run with a limit gathers along the chain that stops the run, and does not
    change its outcome. -/
theorem run_some_of_stopping_chain {s t : State} {tr : List (Rule × State)} {n : Nat}
    (fuel : Nat) (acc : β) (h : s.Chain tr t) (hstop : tr.length = n ∨ (tr.length < n ∧ t.Final)) :
    s.run (some n) fuel see acc = some (gather see acc tr, s.runFor n) := by
  simp only [run, runFor, drive_of_stopping_chain see acc h hstop,
    drive_of_stopping_chain (fun _ _ _ => ()) () h hstop]
  rfl

end Drive

/-- A refused state's program is not empty: it starts with the refused `cons`. -/
theorem program_ne_nil_of_refused {s : State} (h : s.step = .refused) : s.program.items ≠ [] := by
  obtain ⟨rest, _, _, _, hp, _⟩ := step_eq_refused_iff.1 h
  simp [hp]

section DriveOn

variable {β : Type} (see : β → Rule → State → β)

/-- A run without a limit follows a chain to a final state, spending a unit of fuel on each
    step: it ends there once the fuel outlasts the chain, finished if the program is empty and
    refused otherwise, and gives nothing with less fuel. -/
theorem driveOn_of_final_chain {s t : State} {tr : List (Rule × State)} (h : s.Chain tr t)
    (hf : t.Final) (fuel : Nat) (acc : β) :
    s.driveOn see fuel acc = if tr.length < fuel then
      some (gather see acc tr, if t.program.items = [] then .ok t else .error .tooDeep)
      else none := by
  induction h generalizing fuel acc with
  | nil s =>
    cases fuel with
    | zero => rfl
    | succ m =>
      rcases hf with hd | hr
      · simp [driveOn, hd, step_eq_done_iff.1 hd]
      · simp [driveOn, hr, program_ne_nil_of_refused hr]
  | cons hs _ ih =>
    cases fuel with
    | zero => rfl
    | succ m =>
      simp only [driveOn, hs, ih hf, List.length_cons, Nat.add_lt_add_iff_right, gather_cons]

/-- A run without a limit ends exactly when the chain reaches a final state before the fuel is
    spent: finished if its program is empty, refused otherwise. -/
theorem driveOn_eq_some_iff {s : State} {fuel : Nat} {acc b : β} {o : Except EvalError State} :
    s.driveOn see fuel acc = some (b, o) ↔ ∃ tr t, s.Chain tr t ∧ tr.length < fuel ∧
      b = gather see acc tr ∧
      ((t.step = .done ∧ o = .ok t) ∨ (t.step = .refused ∧ o = .error .tooDeep)) := by
  constructor
  · intro h
    induction fuel generalizing s acc with
    | zero => simp [driveOn] at h
    | succ m ih =>
      cases hs : s.step with
      | done =>
        simp only [driveOn, hs, Option.some.injEq, Prod.mk.injEq] at h
        obtain ⟨rfl, rfl⟩ := h
        exact ⟨[], s, .nil s, Nat.succ_pos m, rfl, .inl ⟨hs, rfl⟩⟩
      | refused =>
        simp only [driveOn, hs, Option.some.injEq, Prod.mk.injEq] at h
        obtain ⟨rfl, rfl⟩ := h
        exact ⟨[], s, .nil s, Nat.succ_pos m, rfl, .inr ⟨hs, rfl⟩⟩
      | next r t =>
        simp only [driveOn, hs] at h
        obtain ⟨tr, u, hc, hl, hb, ho⟩ := ih h
        exact ⟨(r, t) :: tr, u, .cons hs hc, by simpa using hl, hb, ho⟩
  · rintro ⟨tr, t, hc, hl, rfl, ⟨hd, rfl⟩ | ⟨hr, rfl⟩⟩
    · rw [driveOn_of_final_chain see hc (.inl hd), if_pos hl, if_pos (step_eq_done_iff.1 hd)]
    · rw [driveOn_of_final_chain see hc (.inr hr), if_pos hl,
        if_neg (program_ne_nil_of_refused hr)]

end DriveOn

/-- The evaluation follows a chain to a final state, spending a unit of fuel on each step: it
    gives that state once the fuel outlasts the chain, and nothing with less fuel. -/
theorem evaluate_of_final_chain {s t : State} {tr : List (Rule × State)} (h : s.Chain tr t)
    (hf : t.Final) (fuel : Nat) :
    s.evaluate fuel = if tr.length < fuel then some t else none := by
  induction h generalizing fuel with
  | nil s =>
    cases fuel with
    | zero => rfl
    | succ m => rcases hf with hd | hr <;> simp [evaluate, *]
  | cons hs _ ih =>
    cases fuel with
    | zero => rfl
    | succ m => simp only [evaluate, hs, ih hf, List.length_cons, Nat.add_lt_add_iff_right]

/-- The evaluation of a state ends exactly when the chain from it reaches a final state before
    the fuel is spent, and gives that state. -/
theorem evaluate_eq_some_iff {s t : State} {fuel : Nat} :
    s.evaluate fuel = some t ↔ ∃ tr, s.Chain tr t ∧ tr.length < fuel ∧ t.Final := by
  constructor
  · intro h
    induction fuel generalizing s with
    | zero => simp [evaluate] at h
    | succ m ih =>
      cases hs : s.step with
      | done =>
        simp only [evaluate, hs, Option.some.injEq] at h
        subst h
        exact ⟨[], .nil s, Nat.succ_pos m, .inl hs⟩
      | refused =>
        simp only [evaluate, hs, Option.some.injEq] at h
        subst h
        exact ⟨[], .nil s, Nat.succ_pos m, .inr hs⟩
      | next r u =>
        simp only [evaluate, hs] at h
        obtain ⟨tr, hc, hl, hf⟩ := ih h
        exact ⟨(r, u) :: tr, .cons hs hc, by simpa using hl, hf⟩
  · rintro ⟨tr, hc, hl, hf⟩
    rw [evaluate_of_final_chain hc hf, if_pos hl]

/-- A refused step leaves the state as it was, so taking it again is refused again. -/
theorem stepTimes_of_refused {s : State} (h : s.step = .refused) (n : Nat) :
    s.stepTimes n = List.replicate n (.refused, s) := by
  induction n with
  | zero => rfl
  | succ n ih => rw [stepTimes, h, ih, List.replicate_succ]

/-! ### Outcomes of runs -/

theorem runFor_eq_ok_iff {s t : State} {n : Nat} :
    s.runFor n = .ok t ↔ ∃ tr, s.Chain tr t ∧ tr.length ≤ n ∧ t.program.items = [] := by
  constructor
  · intro h
    obtain ⟨tr, u, hc, hstop⟩ := exists_stopping_chain n s
    rw [runFor_of_stopping_chain hc hstop] at h
    by_cases hp : u.program.items = []
    · rw [if_pos hp, Except.ok.injEq] at h
      subst h
      refine ⟨tr, hc, ?_, hp⟩
      rcases hstop with hl | ⟨hl, -⟩ <;> omega
    · rw [if_neg hp] at h
      split at h <;> cases h
  · rintro ⟨tr, hc, hl, hp⟩
    -- An empty program is done, so the run stops at `t` whether or not the limit is reached.
    have hstop : tr.length = n ∨ (tr.length < n ∧ t.Final) := by
      rcases Nat.lt_or_eq_of_le hl with hl | hl
      · exact .inr ⟨hl, .inl (step_eq_done_iff.2 hp)⟩
      · exact .inl hl
    rw [runFor_of_stopping_chain hc hstop, if_pos hp]

theorem runFor_eq_limitExceeded_iff {s : State} {n : Nat} :
    s.runFor n = .error (.limitExceeded n) ↔
      ∃ tr t, s.Chain tr t ∧ tr.length = n ∧ t.program.items ≠ [] := by
  constructor
  · intro h
    obtain ⟨tr, u, hc, hstop⟩ := exists_stopping_chain n s
    rw [runFor_of_stopping_chain hc hstop] at h
    by_cases hp : u.program.items = []
    · rw [if_pos hp] at h
      cases h
    · rw [if_neg hp] at h
      by_cases hl : tr.length = n
      · exact ⟨tr, u, hc, hl, hp⟩
      · rw [if_neg hl] at h
        cases h
  · rintro ⟨tr, t, hc, hl, hp⟩
    rw [runFor_of_stopping_chain hc (.inl hl), if_neg hp, if_pos hl]

theorem runFor_eq_tooDeep_iff {s : State} {n : Nat} :
    s.runFor n = .error .tooDeep ↔ ∃ tr t, s.Chain tr t ∧ tr.length < n ∧ t.step = .refused := by
  constructor
  · intro h
    obtain ⟨tr, u, hc, hstop⟩ := exists_stopping_chain n s
    rw [runFor_of_stopping_chain hc hstop] at h
    by_cases hp : u.program.items = []
    · rw [if_pos hp] at h
      cases h
    · rw [if_neg hp] at h
      by_cases hl : tr.length = n
      · rw [if_pos hl] at h
        cases h
      · -- The limit was not reached, so the run stopped at a final state, which is refused.
        obtain ⟨hlt, hf⟩ := hstop.resolve_left hl
        exact ⟨tr, u, hc, hlt, hf.step_eq_refused hp⟩
  · rintro ⟨tr, t, hc, hl, hr⟩
    rw [runFor_of_stopping_chain hc (.inr ⟨hl, .inr hr⟩), if_neg (program_ne_nil_of_refused hr),
      if_neg (Nat.ne_of_lt hl)]

/-- Every observer of a run with the limit `n` sees the same chain of at most `n` steps, and the
    run's outcome is that of the run observing nothing. -/
theorem run_some_gathers (s : State) (n : Nat) :
    ∃ tr t, s.Chain tr t ∧ tr.length ≤ n ∧
      ∀ {β : Type} (see : β → Rule → State → β) (acc : β) (fuel : Nat),
        s.run (some n) fuel see acc = some (gather see acc tr, s.runFor n) := by
  obtain ⟨tr, t, hc, hstop⟩ := exists_stopping_chain n s
  refine ⟨tr, t, hc, ?_, fun see acc fuel => run_some_of_stopping_chain see fuel acc hc hstop⟩
  rcases hstop with hl | ⟨hl, -⟩ <;> omega

theorem run_none_eq_ok_iff {β : Type} (see : β → Rule → State → β) (acc : β) (fuel : Nat)
    {s t : State} :
    (∃ b, s.run none fuel see acc = some (b, .ok t)) ↔
      s.evaluate fuel = some t ∧ t.program.items = [] := by
  constructor
  · rintro ⟨b, h⟩
    obtain ⟨tr, u, hc, hl, -, ⟨hd, ho⟩ | ⟨-, ho⟩⟩ := (driveOn_eq_some_iff see).1 h
    · cases ho
      exact ⟨evaluate_eq_some_iff.2 ⟨tr, hc, hl, .inl hd⟩, step_eq_done_iff.1 hd⟩
    · cases ho
  · rintro ⟨he, hp⟩
    obtain ⟨tr, hc, hl, -⟩ := evaluate_eq_some_iff.1 he
    exact ⟨gather see acc tr,
      (driveOn_eq_some_iff see).2 ⟨tr, t, hc, hl, rfl, .inl ⟨step_eq_done_iff.2 hp, rfl⟩⟩⟩

theorem run_none_eq_tooDeep_iff {β : Type} (see : β → Rule → State → β) (acc : β) (fuel : Nat)
    {s : State} :
    (∃ b, s.run none fuel see acc = some (b, .error .tooDeep)) ↔
      ∃ t, s.evaluate fuel = some t ∧ t.program.items ≠ [] := by
  constructor
  · rintro ⟨b, h⟩
    obtain ⟨tr, u, hc, hl, -, ⟨-, ho⟩ | ⟨hr, -⟩⟩ := (driveOn_eq_some_iff see).1 h
    · cases ho
    · exact ⟨u, evaluate_eq_some_iff.2 ⟨tr, hc, hl, .inr hr⟩, program_ne_nil_of_refused hr⟩
  · rintro ⟨t, he, hp⟩
    obtain ⟨tr, hc, hl, hf⟩ := evaluate_eq_some_iff.1 he
    exact ⟨gather see acc tr,
      (driveOn_eq_some_iff see).2 ⟨tr, t, hc, hl, rfl, .inr ⟨hf.step_eq_refused hp, rfl⟩⟩⟩

/-- A run that finishes within a limit finishes, in the same state, within every larger one. -/
theorem runFor_mono {s t : State} {n m : Nat} (h : s.runFor n = .ok t) (hnm : n ≤ m) :
    s.runFor m = .ok t := by
  obtain ⟨tr, hc, hl, hp⟩ := runFor_eq_ok_iff.1 h
  exact runFor_eq_ok_iff.2 ⟨tr, hc, Nat.le_trans hl hnm, hp⟩

/-- With the limit zero, a run succeeds exactly on an empty program. -/
theorem runFor_zero_ok_iff {s : State} : (∃ t, s.runFor 0 = .ok t) ↔ s.program.items = [] := by
  constructor
  · rintro ⟨t, h⟩
    obtain ⟨tr, hc, hl, hp⟩ := runFor_eq_ok_iff.1 h
    rwa [hc.length_zero (Nat.le_zero.1 hl)] at hp
  · intro hp
    exact ⟨s, runFor_eq_ok_iff.2 ⟨[], .nil s, Nat.le_refl _, hp⟩⟩

/-- Whatever a run gathers, it gathers along a chain from its state. -/
theorem run_gathers_chain {β : Type} {see : β → Rule → State → β} {acc b : β} {s : State}
    {limit : Option Nat} {fuel : Nat} {o : Except EvalError State}
    (h : s.run limit fuel see acc = some (b, o)) :
    ∃ tr t, s.Chain tr t ∧ b = gather see acc tr := by
  cases limit with
  | some n =>
    obtain ⟨tr, t, hc, -, hrun⟩ := run_some_gathers s n
    rw [hrun see acc fuel, Option.some.injEq, Prod.mk.injEq] at h
    exact ⟨tr, t, hc, h.1.symm⟩
  | none =>
    obtain ⟨tr, t, hc, -, hb, -⟩ := (driveOn_eq_some_iff see).1 h
    exact ⟨tr, t, hc, hb⟩

/-- The state a run finishes in is on the chain from its state. -/
theorem run_ok_chain {β : Type} {see : β → Rule → State → β} {acc b : β} {s t : State}
    {limit : Option Nat} {fuel : Nat} (h : s.run limit fuel see acc = some (b, .ok t)) :
    ∃ tr, s.Chain tr t := by
  cases limit with
  | some n =>
    obtain ⟨tr, u, -, -, hrun⟩ := run_some_gathers s n
    rw [hrun see acc fuel, Option.some.injEq, Prod.mk.injEq] at h
    obtain ⟨tr', hc, -⟩ := runFor_eq_ok_iff.1 h.2
    exact ⟨tr', hc⟩
  | none =>
    obtain ⟨tr, u, hc, -, -, ⟨-, ho⟩ | ⟨-, ho⟩⟩ := (driveOn_eq_some_iff see).1 h
    · cases ho
      exact ⟨tr, hc⟩
    · cases ho

/-! ### Refusals and limits -/

/-- A refused `cons` is exact and changes nothing. A step is refused exactly when its `cons`
    would put a value at least `Tree.nestingLimit` deep into the quotation on top, and the
    error then says so; the state is kept, so the step is refused again every time it is
    taken. A chain that reaches such a state ends every run there: the evaluation gives that
    state, its program still headed by the `cons`, once its fuel outlasts the chain, and a run
    without a limit, or with a limit above the length of the chain, fails with that error after
    its observer has seen exactly the steps of the chain. -/
theorem refusal_is_exact (s : State) :
    (s.step = .refused ↔ s.Overflows) ∧
    EvalError.tooDeep.message =
      "Evaluation Error: cons would nest quotations deeper than 1024 levels" ∧
    (s.step = .refused → ∀ n, s.stepTimes n = List.replicate n (.refused, s)) ∧
    (∀ tr t, s.Chain tr t → t.step = .refused →
      (∃ rest, t.program.items = .symbol "cons" :: rest) ∧
      (∀ fuel, s.evaluate fuel = if tr.length < fuel then some t else none) ∧
      ∀ {β : Type} (see : β → Rule → State → β) (acc : β) (fuel : Nat),
        s.run none fuel see acc =
          (if tr.length < fuel then some (gather see acc tr, .error .tooDeep) else none) ∧
        ∀ n, tr.length < n → s.run (some n) fuel see acc = some (gather see acc tr, .error .tooDeep)) := by
  refine ⟨step_eq_refused_iff, by decide, stepTimes_of_refused, ?_⟩
  intro tr t hc hr
  obtain ⟨rest, _, _, _, hp, _⟩ := step_eq_refused_iff.1 hr
  refine ⟨⟨rest, hp⟩, evaluate_of_final_chain hc (.inr hr), fun see acc fuel => ⟨?_, ?_⟩⟩
  · -- The run without a limit stops at the refused state, whose program is not empty.
    have hne : t.program.items ≠ [] := by simp [hp]
    simp only [run, driveOn_of_final_chain see hc (.inr hr), if_neg hne]
  · intro n hn
    rw [run_some_of_stopping_chain see fuel acc hc (.inr ⟨hn, .inr hr⟩)]
    exact congrArg (fun o => some (gather see acc tr, o))
      (runFor_eq_tooDeep_iff.2 ⟨tr, t, hc, hn, hr⟩)

/-- Runs with and without a limit, against the chain of steps. With the limit `n`, a run
    finishes in `t` exactly when the chain reaches `t`, with an empty program, in at most `n`
    steps; it runs out of steps exactly when the chain's first `n` steps leave a program; and it
    is refused exactly when the chain reaches a refused state in fewer than `n` steps. Its
    observer sees the same chain of at most `n` steps whatever it gathers. Without a limit, a
    run finishes in `t` exactly when the evaluation with the same fuel gives `t` with an empty
    program, and is refused exactly when that evaluation stops with a program left. So a run
    that finishes within a limit finishes within every larger one, and with the limit zero a run
    finishes exactly on an empty program. -/
theorem run_limit_semantics (s : State) (n : Nat) :
    (∀ t, s.runFor n = .ok t ↔ ∃ tr, s.Chain tr t ∧ tr.length ≤ n ∧ t.program.items = []) ∧
    (s.runFor n = .error (.limitExceeded n) ↔
      ∃ tr t, s.Chain tr t ∧ tr.length = n ∧ t.program.items ≠ []) ∧
    (s.runFor n = .error .tooDeep ↔ ∃ tr t, s.Chain tr t ∧ tr.length < n ∧ t.step = .refused) ∧
    (∃ tr t, s.Chain tr t ∧ tr.length ≤ n ∧
      ∀ {β : Type} (see : β → Rule → State → β) (acc : β) (fuel : Nat),
        s.run (some n) fuel see acc = some (gather see acc tr, s.runFor n)) ∧
    (∀ {β : Type} (see : β → Rule → State → β) (acc : β) (fuel : Nat) (t : State),
      (∃ b, s.run none fuel see acc = some (b, .ok t)) ↔
        s.evaluate fuel = some t ∧ t.program.items = []) ∧
    (∀ {β : Type} (see : β → Rule → State → β) (acc : β) (fuel : Nat),
      (∃ b, s.run none fuel see acc = some (b, .error .tooDeep)) ↔
        ∃ t, s.evaluate fuel = some t ∧ t.program.items ≠ []) ∧
    (∀ t m, s.runFor n = .ok t → n ≤ m → s.runFor m = .ok t) ∧
    ((∃ t, s.runFor 0 = .ok t) ↔ s.program.items = []) :=
  ⟨fun _ => runFor_eq_ok_iff, runFor_eq_limitExceeded_iff, runFor_eq_tooDeep_iff,
    run_some_gathers s n, fun see acc fuel _ => run_none_eq_ok_iff see acc fuel,
    fun see acc fuel => run_none_eq_tooDeep_iff see acc fuel, fun _ _ h hnm => runFor_mono h hnm,
    runFor_zero_ok_iff⟩

end State

end Concat
