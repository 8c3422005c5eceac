import Concat.Machine.Basic

/-!
# The primitives on the stack

A primitive word takes the trees it needs off the top of the stack and looks at them. Taking
trees off and pushing them back gives the stack back (`Stack.extend_takeTop?`), so a primitive
that finds no match, or a `cons` that is refused, leaves the stack exactly as it found it. Each
primitive therefore acts on the shape of the stack alone: it fires on its own shape
(`Stack.applyCons_of_items`, `applySnoc_of_items`, `applyEq_of_items`) and leaves every other
stack as it was (`Stack.applyCons_unmatched`, …).

So one step is the first pattern of a rule that matches the program and the stack, in the order
`cons`, `snoc`, `eq`, `let`, dispatch (`State.stepByShape`). The proofs about the rules take
the step in that form.

* `State.step_of_not_fits`: a word whose primitive shape is not on the stack goes on to `let`
  and dispatch with the stack as it was;
* `State.step_eq_stepByShape`: the step is the first pattern that matches.
-/

namespace Concat

namespace Stack

variable {st below : Stack} {ts : List Tree}

/-- What is taken off the top lies on what is left, the top first. -/
theorem items_of_takeTop? {n : Nat} (h : st.takeTop? n = some (ts, below)) :
    st.items = ts.reverse ++ below.items :=
  congrArg Stack.items (extend_takeTop? h).symm

/-- A stack that holds `top` on what is left gives `top` back, in the order it was pushed. -/
theorem takeTop?_of_items (top : List Tree) {rest : List Tree} (h : st.items = top ++ rest) :
    st.takeTop? top.length = some (top.reverse, ⟨rest⟩) := by
  simp [takeTop?, h]

/-- `cons` fires on a quotation above a value, unless the value is too deep; it is then refused
    and the stack is put back. -/
theorem applyCons_of_items {q : List Tree} {v : Tree} {rest : List Tree}
    (h : st.items = .quotation q :: v :: rest) :
    st.applyCons = if Tree.nestingLimit ≤ v.depth then .refused st
      else .fired ⟨.quotation (v :: q) :: rest⟩ := by
  have htake : st.takeTop? 2 = some ([v, .quotation q], ⟨rest⟩) :=
    takeTop?_of_items [.quotation q, v] h
  unfold applyCons
  rw [htake]
  dsimp only
  rw [extend_takeTop? htake]
  rfl

/-- `cons` leaves a stack without a quotation above a value as it was. -/
theorem applyCons_unmatched (h : ¬ ∃ q v rest, st.items = .quotation q :: v :: rest) :
    st.applyCons = .unmatched st := by
  unfold applyCons
  split
  next v q below htake => exact absurd ⟨q, v, below.items, items_of_takeTop? htake⟩ h
  next other below _ htake => rw [extend_takeTop? htake]
  next => rfl

theorem items_of_pop? {v : Tree} (h : st.pop? = some (v, below)) : st.items = v :: below.items := by
  cases hst : st.items with
  | nil => simp [pop?, hst] at h
  | cons t rest =>
    simp only [pop?, hst, Option.some.injEq, Prod.mk.injEq] at h
    obtain ⟨rfl, rfl⟩ := h
    rfl

theorem applySnoc_of_items {v : Tree} {q rest : List Tree}
    (h : st.items = .quotation (v :: q) :: rest) :
    st.applySnoc = .fired ⟨.quotation q :: v :: rest⟩ := by
  have htake : st.takeTop? 1 = some ([.quotation (v :: q)], ⟨rest⟩) :=
    takeTop?_of_items [.quotation (v :: q)] h
  unfold applySnoc
  rw [htake]
  rfl

/-- `snoc` leaves a stack without a quotation of at least one item on top as it was. -/
theorem applySnoc_unmatched (h : ¬ ∃ v q rest, st.items = .quotation (v :: q) :: rest) :
    st.applySnoc = .unmatched st := by
  unfold applySnoc
  split
  next v q below htake => exact absurd ⟨v, q, below.items, items_of_takeTop? htake⟩ h
  next other below _ htake => rw [extend_takeTop? htake]
  next => rfl

theorem applyEq_of_items {f t y x : Tree} {rest : List Tree}
    (h : st.items = f :: t :: y :: x :: rest) :
    st.applyEq = .fired ⟨(if x = y then t else f) :: rest⟩ := by
  have htake : st.takeTop? 4 = some ([x, y, t, f], ⟨rest⟩) :=
    takeTop?_of_items [f, t, y, x] h
  unfold applyEq
  rw [htake]
  rfl

/-- `eq` leaves a stack of fewer than four values as it was. -/
theorem applyEq_unmatched (h : ¬ ∃ f t y x rest, st.items = f :: t :: y :: x :: rest) :
    st.applyEq = .unmatched st := by
  unfold applyEq
  split
  next x y t f below htake => exact absurd ⟨f, t, y, x, below.items, items_of_takeTop? htake⟩ h
  next other below _ htake => rw [extend_takeTop? htake]
  next => rfl

/-- The front word is a primitive whose shape is on top of the stack. -/
def PrimitiveFits (w : Tree) (st : Stack) : Prop :=
  (w = .symbol "cons" ∧ ∃ q v rest, st.items = .quotation q :: v :: rest) ∨
  (w = .symbol "snoc" ∧ ∃ v q rest, st.items = .quotation (v :: q) :: rest) ∨
  (w = .symbol "eq" ∧ ∃ f t y x rest, st.items = f :: t :: y :: x :: rest)

/-- A word that names no primitive fits no stack. -/
theorem not_primitiveFits_symbol {n : String} (hn : n ≠ "cons" ∧ n ≠ "snoc" ∧ n ≠ "eq") :
    ¬ PrimitiveFits (.symbol n) st := by
  obtain ⟨hcons, hsnoc, heq⟩ := hn
  simp [PrimitiveFits, hcons, hsnoc, heq]

/-- A word whose primitive shape is not on the stack is no primitive, or one that leaves the
    stack as it was. -/
theorem tryPrimitive_of_not_fits {w : Tree} (h : ¬ PrimitiveFits w st) :
    st.tryPrimitive w = none ∨ ∃ r, st.tryPrimitive w = some (r, .unmatched st) := by
  unfold PrimitiveFits at h
  by_cases hc : w = .symbol "cons"
  · subst hc
    exact .inr ⟨.cons, by rw [tryPrimitive, applyCons_unmatched (by simpa using h)]⟩
  by_cases hs : w = .symbol "snoc"
  · subst hs
    exact .inr ⟨.snoc, by rw [tryPrimitive, applySnoc_unmatched (by simpa using h)]⟩
  by_cases he : w = .symbol "eq"
  · subst he
    exact .inr ⟨.eq, by rw [tryPrimitive, applyEq_unmatched (by simpa using h)]⟩
  · -- Any other word is no primitive.
    left
    unfold tryPrimitive
    split <;> simp_all

end Stack

namespace State

variable {s : State} {w : Tree} {rest : List Tree}

/-- One step read off the shapes of the program and the stack: the first pattern of a rule
    that matches, in the order `cons`, `snoc`, `eq`, `let`, dispatch. -/
def stepByShape (s : State) : Step :=
  match s.program.items, s.stack.items with
  | [], _ => .done
  | .symbol "cons" :: rest, .quotation q :: v :: below =>
    -- The new quotation would be one level deeper than `v`.
    if Tree.nestingLimit ≤ v.depth then .refused
    else .next .cons { s with stack := ⟨.quotation (v :: q) :: below⟩, program := ⟨rest⟩ }
  | .symbol "snoc" :: rest, .quotation (v :: q) :: below =>
    .next .snoc { s with stack := ⟨.quotation q :: v :: below⟩, program := ⟨rest⟩ }
  | .symbol "eq" :: rest, f :: t :: y :: x :: below =>
    .next .eq { s with stack := ⟨(if x = y then t else f) :: below⟩, program := ⟨rest⟩ }
  | .symbol n :: .symbol "let" :: rest, v :: below =>
    .next .bind ⟨s.dictionary.define n v, ⟨below⟩, ⟨rest⟩⟩
  -- A primitive word whose shape is not on the stack falls through to here, like any word.
  | w :: rest, _ => s.dispatch w rest

/-- A word whose primitive shape is not on the stack goes on to `let` and dispatch, with the
    stack as it was. -/
theorem step_of_not_fits (hp : s.program.items = w :: rest)
    (h : ¬ Stack.PrimitiveFits w s.stack) : s.step = s.bindOrDispatch w rest := by
  rcases Stack.tryPrimitive_of_not_fits h with hn | ⟨r, hr⟩
  · simp only [step, hp, hn]
  · simp only [step, hp, hr]

/-- A word that is not a name followed by `let` on a stack that is not empty is dispatched. -/
theorem bindOrDispatch_of_not_let
    (h : ∀ n rest' v below, w = .symbol n → rest = .symbol "let" :: rest' →
      s.stack.items = v :: below → False) :
    s.bindOrDispatch w rest = s.dispatch w rest := by
  unfold bindOrDispatch
  split
  next _ _ _ n rest' v below hpop =>
    exact (h n rest' v below.items rfl rfl (Stack.items_of_pop? hpop)).elim
  next => rfl

/-- Past the primitives, the patterns of `let` and dispatch are `bindOrDispatch`. -/
theorem stepByShape_of_not_fits (hp : s.program.items = w :: rest)
    (h : ¬ Stack.PrimitiveFits w s.stack) : s.stepByShape = s.bindOrDispatch w rest := by
  unfold stepByShape Stack.PrimitiveFits at *
  split
  next => simp_all
  next => simp_all
  next => simp_all
  next => simp_all
  next n rest' v below hp' hs =>
    rw [hp, List.cons.injEq] at hp'
    obtain ⟨rfl, rfl⟩ := hp'
    simp [bindOrDispatch, Stack.pop?, hs]
  next w' rest' hp' _ _ _ notBind =>
    rw [hp, List.cons.injEq] at hp'
    obtain ⟨rfl, rfl⟩ := hp'
    exact (bindOrDispatch_of_not_let fun n rest'' v below hw hr hst =>
      notBind n rest'' v below hst hw hr).symm

/-- The step is the first pattern of a rule that matches the program and the stack. -/
theorem step_eq_stepByShape (s : State) : s.step = s.stepByShape := by
  cases hp : s.program.items with
  | nil => simp [step, stepByShape, hp]
  | cons w rest =>
    by_cases hfit : Stack.PrimitiveFits w s.stack
    · rcases hfit with ⟨rfl, q, v, below, hs⟩ | ⟨rfl, v, q, below, hs⟩ |
        ⟨rfl, f, t, y, x, below, hs⟩
      · -- `cons` is refused by both, or fires in both.
        by_cases hv : Tree.nestingLimit ≤ v.depth
        · simp only [step, stepByShape, hp, hs, Stack.tryPrimitive, Stack.applyCons_of_items hs,
            hv, if_true]
        · simp only [step, stepByShape, hp, hs, Stack.tryPrimitive, Stack.applyCons_of_items hs,
            hv, if_false]
      · simp only [step, stepByShape, hp, hs, Stack.tryPrimitive, Stack.applySnoc_of_items hs]
      · simp only [step, stepByShape, hp, hs, Stack.tryPrimitive, Stack.applyEq_of_items hs]
    · rw [step_of_not_fits hp hfit, stepByShape_of_not_fits hp hfit]

end State

end Concat
