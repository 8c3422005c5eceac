import Concat.Proofs.Splitting

/-!
# Reaching states

The states a machine passes through from a state (`State.Reaches`), and the one way it can
fail on the way (`State.Fails`: it reaches a `cons` that is refused). Words that are defined in
the language itself take many steps; their effects are proved here step by step, each step by
one of the lemmas below, which say what a step does to a state whose stack and program are
known only at their tops and fronts.

* `Dictionary.get?_define`: a name just bound is bound to its tree, and every other name keeps
  its binding (`Dictionary.get?_define_define`: also when bound before another);
* `Dictionary.SameOutside`: two dictionaries that bind every name outside a set alike;
* `State.step_quotation`, `State.step_expand`, `State.step_unbound`, `State.step_bind`,
  `State.step_cons`, `State.step_snoc` and `State.step_eq`: one step, rule by rule;
* `State.cons_snoc_inverse`: a `cons` followed by a `snoc`, or a `snoc` followed by a `cons`,
  gives back the state it started from, less the two words.
-/

namespace Concat

namespace Dictionary

theorem find?_insertSorted (name m : String) (value : Tree) (es : List (String × Tree)) :
    (insertSorted name value es).find? (fun e => e.1 == m) =
      if m = name then some (name, value) else es.find? fun e => e.1 == m := by
  induction es with
  | nil =>
    by_cases h : m = name
    · subst h
      simp [insertSorted]
    · simp [insertSorted, h, Ne.symm h]
  | cons e es ih =>
    obtain ⟨k, v⟩ := e
    unfold insertSorted
    by_cases hlt : name < k
    · by_cases h : m = name
      · subst h
        simp [hlt]
      · simp [hlt, h, Ne.symm h]
    · by_cases hk : name = k
      · -- The binding of `name` is replaced.
        subst hk
        by_cases h : m = name
        · subst h
          simp
        · simp [h, Ne.symm h]
      · -- A name before `name` is passed by.
        rw [if_neg hlt, if_neg hk, List.find?_cons, List.find?_cons, ih]
        by_cases h : m = name
        · subst h
          simp [beq_false_of_ne (Ne.symm hk)]
        · simp [h]

/-- A name just bound is bound to its tree, and every other name keeps its binding. -/
theorem get?_define (d : Dictionary) (n m : String) (v : Tree) :
    (d.define n v).get? m = if m = n then some v else d.get? m := by
  unfold get? define
  rw [find?_insertSorted]
  by_cases h : m = n <;> simp [h]

@[simp] theorem get?_define_self (d : Dictionary) (n : String) (v : Tree) :
    (d.define n v).get? n = some v := by
  simp [get?_define]

theorem get?_define_of_ne (d : Dictionary) {n m : String} (v : Tree) (h : m ≠ n) :
    (d.define n v).get? m = d.get? m := by
  simp [get?_define, h]

/-- A binding survives the binding of another name. -/
theorem get?_define_define (d : Dictionary) {n m : String} (v w : Tree) (h : n ≠ m) :
    ((d.define n v).define m w).get? n = some v := by
  rw [get?_define_of_ne _ _ h, get?_define_self]

/-- `d'` binds every name outside `names` as `d` does. -/
def SameOutside (names : String → Bool) (d d' : Dictionary) : Prop :=
  ∀ n, names n = false → d'.get? n = d.get? n

namespace SameOutside

variable {names : String → Bool} {d d' d'' : Dictionary}

theorem refl (d : Dictionary) : SameOutside names d d := fun _ _ => rfl

theorem trans (h : SameOutside names d d') (h' : SameOutside names d' d'') :
    SameOutside names d d'' :=
  fun n hn => (h' n hn).trans (h n hn)

/-- Binding a name of the set keeps every name outside it. -/
theorem define (d : Dictionary) {n : String} (hn : names n = true) (v : Tree) :
    SameOutside names d (d.define n v) :=
  fun _ hm => get?_define_of_ne d v fun h => by rw [h, hn] at hm; cases hm

end SameOutside

end Dictionary

namespace State

/-- `s.Reaches t`: the steps from `s` pass through `t`. -/
def Reaches (s t : State) : Prop := ∃ tr, s.Chain tr t

/-- The steps from `s` reach a `cons` that is refused, where every run from `s` stops. -/
def Fails (s : State) : Prop := ∃ t, s.Reaches t ∧ t.step = .refused

namespace Reaches

variable {s t u : State}

theorem refl (s : State) : s.Reaches s := ⟨[], .nil s⟩

theorem trans (h : s.Reaches t) (h' : t.Reaches u) : s.Reaches u := by
  obtain ⟨tr, hc⟩ := h
  obtain ⟨tr', hc'⟩ := h'
  exact ⟨tr ++ tr', hc.append hc'⟩

/-- A step that applies a rule, then the states from there. -/
theorem head {r : Rule} (hs : s.step = .next r t) (h : t.Reaches u) : s.Reaches u := by
  obtain ⟨tr, hc⟩ := h
  exact ⟨(r, t) :: tr, .cons hs hc⟩

theorem single {r : Rule} (hs : s.step = .next r t) : s.Reaches t := head hs (refl t)

theorem fails (h : s.Reaches t) (ht : t.Fails) : s.Fails := by
  obtain ⟨u, hu, hr⟩ := ht
  exact ⟨u, h.trans hu, hr⟩

end Reaches

/-! ## One step, rule by rule

The states are written `start d st p`, with the stack `st` known at its top and the program
`p` at its front. -/

section Steps

variable (d : Dictionary) (st : Stack) (rest : List Tree)

/-- A quotation at the front is pushed. -/
theorem step_quotation (q : List Tree) :
    (start d st (.quotation q :: rest)).step =
      .next .push (start d (st.push (.quotation q)) rest) := rfl

/-- A word that is not a primitive and not followed by `let` is dispatched. -/
theorem step_dispatch {n : String} (hn : n ≠ "cons" ∧ n ≠ "snoc" ∧ n ≠ "eq")
    (hlet : rest.head? ≠ some (.symbol "let")) :
    (start d st (.symbol n :: rest)).step = (start d st (.symbol n :: rest)).dispatch (.symbol n) rest := by
  rw [step_of_not_fits rfl (Stack.not_primitiveFits_symbol hn), bindOrDispatch_of_not_let]
  -- Only a `let` as the next word would bind.
  rintro n' rest' v below - rfl -
  exact hlet rfl

/-- A word bound to a quotation is replaced by its items. -/
theorem step_expand {n : String} {body : List Tree} (hn : n ≠ "cons" ∧ n ≠ "snoc" ∧ n ≠ "eq")
    (hlet : rest.head? ≠ some (.symbol "let")) (hd : d.get? n = some (.quotation body)) :
    (start d st (.symbol n :: rest)).step = .next .expand (start d st (body ++ rest)) := by
  rw [step_dispatch d st rest hn hlet, dispatch]
  simp [start, hd, Program.prepend_eq_mk]

/-- A word bound to nothing is pushed. -/
theorem step_unbound {n : String} (hn : n ≠ "cons" ∧ n ≠ "snoc" ∧ n ≠ "eq")
    (hlet : rest.head? ≠ some (.symbol "let")) (hd : d.get? n = none) :
    (start d st (.symbol n :: rest)).step = .next .push (start d (st.push (.symbol n)) rest) := by
  rw [step_dispatch d st rest hn hlet, dispatch]
  simp [start, hd]

/-- A name followed by `let` binds the top value. -/
theorem step_bind {n : String} (hn : n ≠ "cons" ∧ n ≠ "snoc" ∧ n ≠ "eq") (v : Tree) :
    (start d (st.push v) (.symbol n :: .symbol "let" :: rest)).step =
      .next .bind (start (d.define n v) st rest) := by
  rw [step_of_not_fits rfl (Stack.not_primitiveFits_symbol hn)]
  -- The name, `let` and a value on top: the binding pattern.
  rfl

/-- A `cons` puts the value under a quotation into it, when the value is not too deep. -/
theorem step_cons {v : Tree} (q : List Tree) (hv : v.depth < Tree.nestingLimit) :
    (start d ((st.push v).push (.quotation q)) (.symbol "cons" :: rest)).step =
      .next .cons (start d (st.push (.quotation (v :: q))) rest) := by
  simp [step_eq_stepByShape, stepByShape, start, Stack.push, Nat.not_le.2 hv]

/-- A `cons` whose value is too deep is refused. -/
theorem step_cons_refused {v : Tree} (q : List Tree) (hv : Tree.nestingLimit ≤ v.depth) :
    (start d ((st.push v).push (.quotation q)) (.symbol "cons" :: rest)).step = .refused := by
  simp [step_eq_stepByShape, stepByShape, start, Stack.push, hv]

/-- A `snoc` takes the first item out of the quotation on top. -/
theorem step_snoc (v : Tree) (q : List Tree) :
    (start d (st.push (.quotation (v :: q))) (.symbol "snoc" :: rest)).step =
      .next .snoc (start d ((st.push v).push (.quotation q)) rest) := by
  simp [step_eq_stepByShape, stepByShape, start, Stack.push]

/-- An `eq` keeps `t` when `x` and `y` are equal, and `f` otherwise. -/
theorem step_eq (x y t f : Tree) :
    (start d ((((st.push x).push y).push t).push f) (.symbol "eq" :: rest)).step =
      .next .eq (start d (st.push (if x = y then t else f)) rest) := by
  simp [step_eq_stepByShape, stepByShape, start, Stack.push]

/-! ## `cons` and `snoc` undo each other -/

/-- Exactly two steps, when each of them applies a rule. -/
theorem stepTimes_two {s t u : State} {r r' : Rule} (hs : s.step = .next r t)
    (ht : t.step = .next r' u) : s.stepTimes 2 = [(.next r t, t), (.next r' u, u)] := by
  simp [stepTimes, hs, ht]

/-- `cons` and `snoc` undo each other, on any stack and before any program. A `cons` that puts
    the value under a quotation into it, followed by a `snoc`, takes the value out again; a
    `snoc` that takes the first item out of a quotation, followed by a `cons`, puts it back.
    Either way the two steps report their two rules and give back the dictionary, the stack and
    the rest of the program as they were. -/
theorem cons_snoc_inverse (d : Dictionary) (st : Stack) (rest : List Tree) :
    (∀ (v : Tree) (q : List Tree), v.depth < Tree.nestingLimit →
      (start d ((st.push v).push (.quotation q)) (.symbol "cons" :: .symbol "snoc" :: rest)).stepTimes 2 =
        [(.next .cons (start d (st.push (.quotation (v :: q))) (.symbol "snoc" :: rest)),
            start d (st.push (.quotation (v :: q))) (.symbol "snoc" :: rest)),
          (.next .snoc (start d ((st.push v).push (.quotation q)) rest),
            start d ((st.push v).push (.quotation q)) rest)]) ∧
    (∀ (v : Tree) (q : List Tree), (Tree.quotation (v :: q)).depth ≤ Tree.nestingLimit →
      (start d (st.push (.quotation (v :: q))) (.symbol "snoc" :: .symbol "cons" :: rest)).stepTimes 2 =
        [(.next .snoc (start d ((st.push v).push (.quotation q)) (.symbol "cons" :: rest)),
            start d ((st.push v).push (.quotation q)) (.symbol "cons" :: rest)),
          (.next .cons (start d (st.push (.quotation (v :: q))) rest),
            start d (st.push (.quotation (v :: q))) rest)]) := by
  refine ⟨fun v q hv => stepTimes_two (step_cons d st _ q hv) (step_snoc d st rest v q),
    fun v q hq => ?_⟩
  -- The item taken out is one level shallower than its quotation, so putting it back is never
  -- refused.
  have hv : v.depth < Tree.nestingLimit := by
    simp only [Tree.depth_quotation, Tree.depthList_cons] at hq
    omega
  exact stepTimes_two (step_snoc d st _ v q) (step_cons d st rest q hv)

end Steps

/-- A quotation goes into a quotation and comes out again, under a stack of one word; and the
    quotation taken out of a quotation is put back. -/
theorem cons_snoc_inverse_nested :
    (Tree.quotation [.symbol "a"]).depth < Tree.nestingLimit ∧
    (start .empty ⟨[.quotation [.symbol "b"], .quotation [.symbol "a"], .symbol "x"]⟩
        [.symbol "cons", .symbol "snoc"]).stepTimes 2 =
      [(.next .cons (start .empty ⟨[.quotation [.quotation [.symbol "a"], .symbol "b"],
            .symbol "x"]⟩ [.symbol "snoc"]),
          start .empty ⟨[.quotation [.quotation [.symbol "a"], .symbol "b"], .symbol "x"]⟩
            [.symbol "snoc"]),
        (.next .snoc (start .empty ⟨[.quotation [.symbol "b"], .quotation [.symbol "a"],
            .symbol "x"]⟩ []),
          start .empty ⟨[.quotation [.symbol "b"], .quotation [.symbol "a"], .symbol "x"]⟩ [])] ∧
    (Tree.quotation [.quotation [.symbol "a"], .symbol "b"]).depth ≤ Tree.nestingLimit ∧
    (start .empty ⟨[.quotation [.quotation [.symbol "a"], .symbol "b"], .symbol "x"]⟩
        [.symbol "snoc", .symbol "cons"]).stepTimes 2 =
      [(.next .snoc (start .empty ⟨[.quotation [.symbol "b"], .quotation [.symbol "a"],
            .symbol "x"]⟩ [.symbol "cons"]),
          start .empty ⟨[.quotation [.symbol "b"], .quotation [.symbol "a"], .symbol "x"]⟩
            [.symbol "cons"]),
        (.next .cons (start .empty ⟨[.quotation [.quotation [.symbol "a"], .symbol "b"],
            .symbol "x"]⟩ []),
          start .empty ⟨[.quotation [.quotation [.symbol "a"], .symbol "b"], .symbol "x"]⟩ [])] :=
  ⟨by decide, (cons_snoc_inverse .empty ⟨[.symbol "x"]⟩ []).1 (.quotation [.symbol "a"])
      [.symbol "b"] (by decide),
    by decide, (cons_snoc_inverse .empty ⟨[.symbol "x"]⟩ []).2 (.quotation [.symbol "a"])
      [.symbol "b"] (by decide)⟩

end State

end Concat
