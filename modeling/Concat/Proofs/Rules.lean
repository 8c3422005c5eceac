import Concat.Proofs.Primitives

/-!
# The rules, one at a time

`State.step` tries the rules of the machine in a fixed order. Here each rule is stated on its
own, as a relation between a state, the rule and the state it gives (`State.Fires`), saying
nothing about the other rules. The rules are ranked in the order the machine tries them
(`Rule.rank`): `cons`, `snoc`, `eq`, `let`, and then the three ways of dispatching a word,
which share the last rank because no two of them fire on the same state. A rule *applies*
when it fires and no rule of a smaller rank does (`State.Applies`).

The step is this relation made to run, with the one refusal of the machine set apart
(`State.Overflows`: a `cons` whose value is already `Tree.nestingLimit` deep):

* `step_eq_done_iff`: a step is done exactly when the program is empty;
* `step_eq_refused_iff`: a step is refused exactly when the state overflows;
* `step_eq_next_iff`: otherwise the step applies, and reports, the first rule that fires.

Only the rule `let` changes the dictionary (`Fires.dictionary_eq`).
-/

namespace Concat

namespace Rule

/-- Where a rule stands in the order the machine tries them; the three ways of dispatching a
    word share the last place. -/
def rank : Rule → Nat
  | cons => 0
  | snoc => 1
  | eq => 2
  | bind => 3
  | rename | expand | push => 4

end Rule

namespace State

/-- `s.Fires r t`: the rule `r` matches the state `s` and gives the state `t`, whatever the
    other rules do. Stacks are written top first. -/
inductive Fires (s : State) : Rule → State → Prop
  /-- A quotation `[q…]` on top of a value `v` becomes `[v q…]`. -/
  | cons {q : List Tree} {v : Tree} {below rest : List Tree}
      (hp : s.program.items = .symbol "cons" :: rest)
      (hs : s.stack.items = .quotation q :: v :: below) :
      Fires s .cons ⟨s.dictionary, ⟨.quotation (v :: q) :: below⟩, ⟨rest⟩⟩
  /-- A quotation `[v q…]` on top becomes `v` under `[q…]`. -/
  | snoc {v : Tree} {q below rest : List Tree}
      (hp : s.program.items = .symbol "snoc" :: rest)
      (hs : s.stack.items = .quotation (v :: q) :: below) :
      Fires s .snoc ⟨s.dictionary, ⟨.quotation q :: v :: below⟩, ⟨rest⟩⟩
  /-- The four values `x y t f` on top (`f` the top one) become `t` if `x = y`, else `f`. -/
  | eq {f t y x : Tree} {below rest : List Tree}
      (hp : s.program.items = .symbol "eq" :: rest)
      (hs : s.stack.items = f :: t :: y :: x :: below) :
      Fires s .eq ⟨s.dictionary, ⟨(if x = y then t else f) :: below⟩, ⟨rest⟩⟩
  /-- A name followed by `let` is bound to the top value, which is popped. -/
  | bind {n : String} {v : Tree} {below rest : List Tree}
      (hp : s.program.items = .symbol n :: .symbol "let" :: rest)
      (hs : s.stack.items = v :: below) :
      Fires s .bind ⟨s.dictionary.define n v, ⟨below⟩, ⟨rest⟩⟩
  /-- A word bound to a symbol is replaced by it. -/
  | rename {n a : String} {rest : List Tree} (hp : s.program.items = .symbol n :: rest)
      (hd : s.dictionary.get? n = some (.symbol a)) :
      Fires s .rename { s with program := ⟨.symbol a :: rest⟩ }
  /-- A word bound to a quotation is replaced by its items. -/
  | expand {n : String} {body rest : List Tree} (hp : s.program.items = .symbol n :: rest)
      (hd : s.dictionary.get? n = some (.quotation body)) :
      Fires s .expand { s with program := ⟨body ++ rest⟩ }
  /-- An unbound word is pushed. -/
  | pushWord {n : String} {rest : List Tree} (hp : s.program.items = .symbol n :: rest)
      (hd : s.dictionary.get? n = none) :
      Fires s .push { s with stack := s.stack.push (.symbol n), program := ⟨rest⟩ }
  /-- A quotation is pushed. -/
  | pushQuotation {q rest : List Tree} (hp : s.program.items = .quotation q :: rest) :
      Fires s .push { s with stack := s.stack.push (.quotation q), program := ⟨rest⟩ }

/-- `s.Applies r t`: the rule `r` fires on `s`, giving `t`, and no rule of a smaller rank
    fires on `s`. -/
def Applies (s : State) (r : Rule) (t : State) : Prop :=
  s.Fires r t ∧ ∀ r' t', s.Fires r' t' → r.rank ≤ r'.rank

/-- The state's `cons` would put a value at least `Tree.nestingLimit` deep into a quotation:
    the program starts with `cons`, a quotation is on top of the stack, and the value beneath
    it is that deep. -/
def Overflows (s : State) : Prop :=
  ∃ rest q v below, s.program.items = .symbol "cons" :: rest ∧
    s.stack.items = .quotation q :: v :: below ∧ Tree.nestingLimit ≤ v.depth

namespace Fires

variable {s t t' : State} {r r' : Rule}

/-- A rule fires only on a state whose program is not empty. -/
theorem program_ne_nil (h : s.Fires r t) : s.program.items ≠ [] := by
  cases h <;> simp [*]

/-- Every rule but `let` keeps the dictionary. -/
theorem dictionary_eq (h : s.Fires r t) (hr : r ≠ .bind) : t.dictionary = s.dictionary := by
  cases h
  case bind => exact absurd rfl hr
  all_goals rfl

/-- Two rules of the same rank that fire on one state are the same rule, giving the same
    state: each rank but the last has one rule, and the dispatch rules are told apart by what
    the word is bound to. -/
theorem unique (h : s.Fires r t) (h' : s.Fires r' t') (hrank : r.rank = r'.rank) :
    r = r' ∧ t = t' := by
  cases h <;> cases h' <;> simp_all [Rule.rank]

end Fires

/-- Dispatching the front word fires one of the three dispatch rules. -/
theorem fires_of_dispatch {s : State} {w : Tree} {rest : List Tree} {r : Rule} {t : State}
    (hp : s.program.items = w :: rest) (h : s.dispatch w rest = .next r t) :
    s.Fires r t ∧ r.rank = 4 := by
  unfold dispatch at h
  cases w with
  | symbol n =>
    simp only at h
    split at h
    next a hd =>
      cases h
      rw [Program.prepend_eq_mk]
      exact ⟨.rename hp hd, rfl⟩
    next body hd =>
      cases h
      rw [Program.prepend_eq_mk]
      exact ⟨.expand hp hd, rfl⟩
    next hd =>
      cases h
      exact ⟨.pushWord hp hd, rfl⟩
  | quotation q =>
    cases h
    exact ⟨.pushQuotation hp, rfl⟩

/-- Dispatching a word always applies a rule. -/
theorem dispatch_eq_next (s : State) (w : Tree) (rest : List Tree) :
    ∃ r t, s.dispatch w rest = .next r t := by
  unfold dispatch
  cases w with
  | symbol n =>
    simp only
    split <;> exact ⟨_, _, rfl⟩
  | quotation q => exact ⟨_, _, rfl⟩

/-- A step is done exactly when the program is empty. -/
theorem step_eq_done_iff {s : State} : s.step = .done ↔ s.program.items = [] := by
  constructor
  · intro h
    rw [step_eq_stepByShape] at h
    unfold stepByShape at h
    split at h
    next _ _ hp => exact hp
    next => split at h <;> cases h
    next => cases h
    next => cases h
    next => cases h
    next _ _ w rest _ _ _ _ _ =>
      obtain ⟨r, t, ht⟩ := dispatch_eq_next s w rest
      rw [ht] at h
      cases h
  · intro h
    simp [step_eq_stepByShape, stepByShape, h]

/-- A step is refused exactly when the state overflows. -/
theorem step_eq_refused_iff {s : State} : s.step = .refused ↔ s.Overflows := by
  constructor
  · intro h
    rw [step_eq_stepByShape] at h
    unfold stepByShape at h
    split at h
    next => cases h
    next _ _ rest q v below hp hs =>
      split at h
      next hv => exact ⟨rest, q, v, below, hp, hs, hv⟩
      next => cases h
    next => cases h
    next => cases h
    next => cases h
    next _ _ w rest _ _ _ _ _ =>
      obtain ⟨r, t, ht⟩ := dispatch_eq_next s w rest
      rw [ht] at h
      cases h
  · rintro ⟨rest, q, v, below, hp, hs, hv⟩
    simp [step_eq_stepByShape, stepByShape, hp, hs, hv]

/-- A step that applies a rule applies the first rule that fires. Where the step's patterns
    overlap, the rule of the earlier pattern has the smaller rank, and a later pattern is
    reached only when no earlier one matches. -/
theorem applies_of_step {s : State} {r : Rule} {t : State} (h : s.step = .next r t) :
    s.Applies r t := by
  rw [step_eq_stepByShape] at h
  unfold stepByShape at h
  split at h
  next => cases h
  next _ _ rest q v below hp hs =>
    split at h
    next => cases h
    next =>
      cases h
      exact ⟨.cons hp hs, fun _ _ _ => Nat.zero_le _⟩
  next _ _ rest v q below hp hs =>
    cases h
    refine ⟨.snoc hp hs, fun r' t' hf => ?_⟩
    -- Only `cons` ranks before `snoc`, and it needs another word in front.
    cases hf <;> simp_all [Rule.rank]
  next _ _ rest f t' y x below hp hs =>
    cases h
    refine ⟨.eq hp hs, fun r' t' hf => ?_⟩
    cases hf <;> simp_all [Rule.rank]
  next _ _ n rest v below notCons notSnoc notEq hp hs =>
    cases h
    refine ⟨.bind hp hs, fun r' t' hf => ?_⟩
    -- A primitive that fired here would have matched an earlier pattern.
    cases hf with
    | cons hp' hs' =>
      simp only [hp, hs, List.cons.injEq, Tree.symbol.injEq] at hp' hs'
      exact (notCons _ _ _ hp'.1 hs'.1 hs'.2).elim
    | snoc hp' hs' =>
      simp only [hp, hs, List.cons.injEq, Tree.symbol.injEq] at hp' hs'
      exact (notSnoc _ _ hp'.1 hs'.1).elim
    | eq hp' hs' =>
      simp only [hp, hs, List.cons.injEq, Tree.symbol.injEq] at hp' hs'
      exact (notEq _ _ _ _ hp'.1 hs'.2).elim
    | _ => simp [Rule.rank]
  next _ _ w rest hp notCons notSnoc notEq notBind =>
    obtain ⟨hf, hr⟩ := fires_of_dispatch hp h
    refine ⟨hf, fun r' t' hf' => ?_⟩
    rw [hr]
    -- Dispatch comes last: each rule of a smaller rank would have matched an earlier pattern.
    cases hf' with
    | cons hp' hs' =>
      simp only [hp, List.cons.injEq] at hp'
      exact (notCons _ _ _ hs' hp'.1).elim
    | snoc hp' hs' =>
      simp only [hp, List.cons.injEq] at hp'
      exact (notSnoc _ _ _ hs' hp'.1).elim
    | eq hp' hs' =>
      simp only [hp, List.cons.injEq] at hp'
      exact (notEq _ _ _ _ _ hs' hp'.1).elim
    | bind hp' hs' =>
      simp only [hp, List.cons.injEq] at hp'
      exact (notBind _ _ _ _ hs' hp'.1 hp'.2).elim
    | _ => simp [Rule.rank]

/-- Apart from a refusal, a step applies exactly the first rule that fires. -/
theorem step_eq_next_iff {s : State} {r : Rule} {t : State} :
    s.step = .next r t ↔ s.Applies r t ∧ ¬ s.Overflows := by
  constructor
  · intro h
    refine ⟨applies_of_step h, fun ho => ?_⟩
    rw [step_eq_refused_iff.2 ho] at h
    cases h
  · rintro ⟨⟨hf, hfirst⟩, ho⟩
    cases hstep : s.step with
    | done => exact absurd (step_eq_done_iff.1 hstep) hf.program_ne_nil
    | refused => exact absurd (step_eq_refused_iff.1 hstep) ho
    | next r' t' =>
      -- The step's rule applies too, so it has the same rank as `r`, and is `r`.
      obtain ⟨hf', hfirst'⟩ := applies_of_step hstep
      obtain ⟨rfl, rfl⟩ := hf'.unique hf (Nat.le_antisymm (hfirst' r t hf) (hfirst r' t' hf'))
      rfl

/-- A `cons` without its shape on the stack is a word like any other: followed by `let`, it
    is the name that is bound. -/
example : (State.start .empty ⟨[.symbol "v"]⟩ [.symbol "cons", .symbol "let"]).step =
    .next .bind ⟨Dictionary.empty.define "cons" (.symbol "v"), ⟨[]⟩, ⟨[]⟩⟩ := by
  decide

/-- The step refines the rules of the machine: it is done exactly on an empty program, it is
    refused exactly on an overflowing `cons`, and otherwise it applies and reports the first
    rule that fires; whatever rule it applies, only `let` changes the dictionary. -/
theorem step_refines_rules (s : State) :
    (s.step = .done ↔ s.program.items = []) ∧
    (s.step = .refused ↔ s.Overflows) ∧
    (∀ r t, s.step = .next r t ↔ s.Applies r t ∧ ¬ s.Overflows) ∧
    (∀ r t, s.step = .next r t → r ≠ .bind → t.dictionary = s.dictionary) :=
  ⟨step_eq_done_iff, step_eq_refused_iff, fun _ _ => step_eq_next_iff,
    fun _ _ h hr => (applies_of_step h).1.dictionary_eq hr⟩

end State

end Concat
