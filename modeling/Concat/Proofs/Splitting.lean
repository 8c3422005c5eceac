import Concat.Proofs.Atomicity
import Concat.Proofs.Repair
import Concat.Proofs.Scanning

/-!
# Splitting an input

An input can be given to a session in two parts, cut at a blank, and mean the same. What could
tie the two parts together is a bracket open in the first and closed in the second, and the
word `let`, which binds the word before it: so the first part must read with no issue, and the
second must not start with `let`. The steps of a program followed by more are then the steps of
the program alone, with the rest carried along behind it (`State.withTail`), until the program
is done and the rest runs on from there.

* `Reading.ofText_append_blank`: two texts with a blank between them read as one reading after
  the other, when the first has no issue;
* `State.step_withTail_of_next` and `State.step_withTail_of_refused`: a program followed by more
  takes the steps the program takes alone;
* `State.Chain.prefix`: of two chains from one state, the shorter is the start of the longer;
* `State.finishes_withTail_iff`: a program followed by more finishes exactly when the program
  finishes and the rest then finishes from where it stopped;
* `Session.eval_ok_append_iff`: an input whose program is that of one input followed by that of
  another evaluates as the two in turn;
* `Session.eval_split`: evaluating the two parts in turn, against evaluating them at once.
-/

namespace Concat

namespace Token

/-- Two texts with a blank between them scan to the lexemes of the one and of the other. -/
theorem lexemes_scan_append_blank (a b : String) :
    (scan (a ++ " " ++ b)).map (·.lexeme) = (scan a).map (·.lexeme) ++ (scan b).map (·.lexeme) := by
  have hchars : (a ++ " " ++ b).toList = a.toList ++ ' ' :: b.toList := by
    rw [String.toList_append, String.toList_append, show " ".toList = [' '] from rfl]
    simp
  rw [scan, hchars, scanFrom_append_blank (show Text.isBlank ' ' = true from rfl), List.map_append,
    lexemes_scanFrom (0 + byteLength a.toList + ' '.utf8Size) 0]
  rfl

end Token

namespace Reading

/-- Two texts with a blank between them read as the reading of the first followed by that of
    the second, when the first has no issue; and then there is no issue when the second has
    none. -/
theorem ofText_append_blank {a b : String} (ha : (ofText a).issues = []) :
    (ofText (a ++ " " ++ b)).trees = (ofText a).trees ++ (ofText b).trees ∧
    ((ofText b).issues = [] → (ofText (a ++ " " ++ b)).issues = []) := by
  have hlex := Token.lexemes_scan_append_blank a b
  have hbal := (issues_ofTokens_eq_nil_iff _).1 ha
  refine ⟨?_, fun hb => ?_⟩
  · apply Tree.lexemesList_inj
    simp only [ofText, Tree.lexemesList_append, lexemesList_ofTokens, repair]
    rw [hlex, repairFrom_append_of_balanced hbal, repairFrom_of_balanced hbal]
  · rw [ofText, issues_ofTokens_eq_nil_iff, hlex]
    exact hbal.append ((issues_ofTokens_eq_nil_iff _).1 hb)

/-- A reading that starts with a symbol comes from tokens that start with its word. -/
theorem head?_lexemes_of_head?_ofTokens {ts : List Token} {w : String}
    (h : (ofTokens ts).trees.head? = some (.symbol w)) :
    (ts.map (·.lexeme)).head? = some (.word w) := by
  obtain ⟨rest, hrest⟩ : ∃ rest, (ofTokens ts).trees = .symbol w :: rest := by
    cases htrees : (ofTokens ts).trees with
    | nil => simp [htrees] at h
    | cons t rest =>
      rw [htrees, List.head?_cons, Option.some.injEq] at h
      exact ⟨rest, by rw [h]⟩
  have hrepair := lexemesList_ofTokens ts
  rw [hrest, Tree.lexemesList_cons, Tree.lexemes_symbol, repair] at hrepair
  -- The repair starts with the first lexeme, unless that lexeme stops the reading at once.
  cases hls : ts.map (·.lexeme) with
  | nil => simp [hls] at hrepair
  | cons l ls =>
    rw [hls] at hrepair
    cases hl : stopsAt 0 l with
    | true => simp [repairFrom_cons_of_stopsAt hl] at hrepair
    | false =>
      rw [repairFrom_cons_of_not_stopsAt hl] at hrepair
      simp only [List.singleton_append, List.cons.injEq] at hrepair
      rw [List.head?_cons, hrepair.1]

end Reading

namespace State

/-- The state with `rest` put after its program. -/
def withTail (s : State) (rest : List Tree) : State :=
  { s with program := ⟨s.program.items ++ rest⟩ }

@[simp] theorem withTail_dictionary (s : State) (rest : List Tree) :
    (s.withTail rest).dictionary = s.dictionary := rfl

@[simp] theorem withTail_stack (s : State) (rest : List Tree) :
    (s.withTail rest).stack = s.stack := rfl

@[simp] theorem withTail_program (s : State) (rest : List Tree) :
    (s.withTail rest).program.items = s.program.items ++ rest := rfl

/-- Starting a program followed by more is starting the program, with the rest after it. -/
theorem start_append (d : Dictionary) (st : Stack) (trees rest : List Tree) :
    State.start d st (trees ++ rest) = (State.start d st trees).withTail rest := rfl

/-- A state whose program is done, with `rest` put after it, starts `rest`. -/
theorem withTail_of_program_eq_nil {t : State} (ht : t.program.items = []) (rest : List Tree) :
    t.withTail rest = State.start t.dictionary t.stack rest := by
  simp [withTail, State.start, ht]

variable {rest : List Tree}

/-- A rule that fires on a state fires on it with more after its program, and carries that
    along. -/
theorem Fires.withTail {s t : State} {r : Rule} (h : s.Fires r t) (rest : List Tree) :
    (s.withTail rest).Fires r (t.withTail rest) := by
  cases h with
  | cons hp hs => exact .cons (by simp [hp]) hs
  | snoc hp hs => exact .snoc (by simp [hp]) hs
  | eq hp hs => exact .eq (by simp [hp]) hs
  | bind hp hs => exact .bind (by simp [hp]) hs
  | rename hp hd => exact .rename (by simp [hp]) hd
  | @expand n body rest₀ hp hd =>
    have hp' : (s.withTail rest).program.items = .symbol n :: (rest₀ ++ rest) := by simp [hp]
    simpa [State.withTail] using Fires.expand hp' hd
  | pushWord hp hd => exact .pushWord (by simp [hp]) hd
  | pushQuotation hp => exact .pushQuotation (by simp [hp])

/-- A program followed by more starts as the program does. -/
theorem head_withTail {s : State} {x y : Tree} {xs ys : List Tree}
    (hx : s.program.items = x :: xs) (h : (s.withTail rest).program.items = y :: ys) :
    y = x ∧ ys = xs ++ rest := by
  simp only [withTail_program, hx, List.cons_append, List.cons.injEq] at h
  exact ⟨h.1.symm, h.2.symm⟩

/-- A rule that fires on a state with more after its program fires on the program alone, when
    the program is not empty and what follows it does not start with `let`: the only rule that
    looks past the front word is `let`. -/
theorem Fires.of_withTail {s t' : State} {r : Rule} (h : (s.withTail rest).Fires r t')
    (hne : s.program.items ≠ []) (hlet : rest.head? ≠ some (.symbol "let")) :
    ∃ t, s.Fires r t ∧ t' = t.withTail rest := by
  obtain ⟨x, xs, hx⟩ := List.exists_cons_of_ne_nil hne
  cases h with
  | cons hp hs =>
    obtain ⟨rfl, rfl⟩ := head_withTail hx hp
    exact ⟨_, .cons hx hs, rfl⟩
  | snoc hp hs =>
    obtain ⟨rfl, rfl⟩ := head_withTail hx hp
    exact ⟨_, .snoc hx hs, rfl⟩
  | eq hp hs =>
    obtain ⟨rfl, rfl⟩ := head_withTail hx hp
    exact ⟨_, .eq hx hs, rfl⟩
  | bind hp hs =>
    obtain ⟨rfl, hxs⟩ := head_withTail hx hp
    cases xs with
    | nil =>
      -- The `let` would be the first tree of what follows.
      rw [List.nil_append] at hxs
      exact absurd (by rw [← hxs]; rfl) hlet
    | cons y ys =>
      simp only [List.cons_append, List.cons.injEq] at hxs
      obtain ⟨rfl, rfl⟩ := hxs
      exact ⟨_, .bind hx hs, rfl⟩
  | rename hp hd =>
    obtain ⟨rfl, rfl⟩ := head_withTail hx hp
    exact ⟨_, .rename hx hd, rfl⟩
  | expand hp hd =>
    obtain ⟨rfl, rfl⟩ := head_withTail hx hp
    exact ⟨_, .expand hx hd, by simp [State.withTail]⟩
  | pushWord hp hd =>
    obtain ⟨rfl, rfl⟩ := head_withTail hx hp
    exact ⟨_, .pushWord hx hd, rfl⟩
  | pushQuotation hp =>
    obtain ⟨rfl, rfl⟩ := head_withTail hx hp
    exact ⟨_, .pushQuotation hx, rfl⟩

/-- A program that is not empty overflows with more after it exactly when it does alone. -/
theorem overflows_withTail_iff {s : State} (hne : s.program.items ≠ []) (rest : List Tree) :
    (s.withTail rest).Overflows ↔ s.Overflows := by
  obtain ⟨x, xs, hx⟩ := List.exists_cons_of_ne_nil hne
  simp only [Overflows, withTail_program, withTail_stack, hx, List.cons_append, List.cons.injEq]
  constructor
  · rintro ⟨_, q, v, below, ⟨rfl, -⟩, hs, hv⟩
    exact ⟨xs, q, v, below, ⟨rfl, rfl⟩, hs, hv⟩
  · rintro ⟨_, q, v, below, ⟨rfl, rfl⟩, hs, hv⟩
    exact ⟨xs ++ rest, q, v, below, ⟨rfl, rfl⟩, hs, hv⟩

/-- A step that applies a rule applies it with more after the program, carrying that along,
    when what follows does not start with `let`. -/
theorem step_withTail_of_next {s t : State} {r : Rule} (h : s.step = .next r t)
    (hlet : rest.head? ≠ some (.symbol "let")) :
    (s.withTail rest).step = .next r (t.withTail rest) := by
  obtain ⟨⟨hf, hfirst⟩, ho⟩ := step_eq_next_iff.1 h
  have hne := hf.program_ne_nil
  refine step_eq_next_iff.2 ⟨⟨hf.withTail rest, fun r' t' hf' => ?_⟩,
    fun ho' => ho ((overflows_withTail_iff hne rest).1 ho')⟩
  -- A rule of smaller rank firing with the rest would fire on the program alone.
  obtain ⟨t'', hf'', -⟩ := hf'.of_withTail hne hlet
  exact hfirst r' t'' hf''

/-- A refused step is refused with more after the program. -/
theorem step_withTail_of_refused {s : State} (h : s.step = .refused) (rest : List Tree) :
    (s.withTail rest).step = .refused :=
  step_eq_refused_iff.2 ((overflows_withTail_iff (program_ne_nil_of_refused h) rest).2
    (step_eq_refused_iff.1 h))

/-- A chain carries along what follows its program, when that does not start with `let`. -/
theorem Chain.withTail {s t : State} {tr : List (Rule × State)} (h : s.Chain tr t)
    (hlet : rest.head? ≠ some (.symbol "let")) :
    (s.withTail rest).Chain (tr.map fun p => (p.1, p.2.withTail rest)) (t.withTail rest) := by
  induction h with
  | nil s => exact .nil _
  | cons hs _ ih => exact .cons (step_withTail_of_next hs hlet) ih

/-- A chain followed by a chain from where it ends is one chain. -/
theorem Chain.append {s t u : State} {tr₁ tr₂ : List (Rule × State)} (h₁ : s.Chain tr₁ t)
    (h₂ : t.Chain tr₂ u) : s.Chain (tr₁ ++ tr₂) u := by
  induction h₁ with
  | nil => exact h₂
  | cons hs _ ih => exact .cons hs (ih h₂)

/-- Steps are determined: of two chains from one state, the shorter is the start of the
    longer. -/
theorem Chain.prefix {s t₁ t₂ : State} {tr₁ tr₂ : List (Rule × State)} (h₁ : s.Chain tr₁ t₁)
    (h₂ : s.Chain tr₂ t₂) (hl : tr₁.length ≤ tr₂.length) :
    ∃ tr₃, t₁.Chain tr₃ t₂ ∧ tr₂ = tr₁ ++ tr₃ := by
  induction h₁ generalizing tr₂ with
  | nil => exact ⟨tr₂, h₂, rfl⟩
  | cons hs _ ih =>
    cases h₂ with
    | nil => simp at hl
    | cons hs' hc' =>
      rw [hs] at hs'
      cases hs'
      obtain ⟨tr₃, hc₃, rfl⟩ := ih hc' (by simpa using hl)
      exact ⟨tr₃, hc₃, rfl⟩

/-- No chain leaves a final state. -/
theorem Chain.eq_nil_of_final {t u : State} {tr : List (Rule × State)} (h : t.Chain tr u)
    (hf : t.Final) : tr = [] ∧ u = t := by
  cases h with
  | nil => exact ⟨rfl, rfl⟩
  | cons hs _ => rcases hf with hd | hr <;> simp_all

/-- A program followed by `rest` runs to an empty program exactly when the program alone does
    and `rest` then runs to an empty program from where it stopped, when `rest` does not start
    with `let`. -/
theorem finishes_withTail_iff {s u : State} (hlet : rest.head? ≠ some (.symbol "let")) :
    (∃ tr, (s.withTail rest).Chain tr u ∧ u.program.items = []) ↔
      ∃ tr₁ t, s.Chain tr₁ t ∧ t.program.items = [] ∧
        ∃ tr₂, (t.withTail rest).Chain tr₂ u ∧ u.program.items = [] := by
  constructor
  · rintro ⟨tr, hc, hu⟩
    -- Run the program alone for one step more than the whole run, or until it stops.
    obtain ⟨tr₁, t, hc₁, hstop⟩ := exists_stopping_chain (tr.length + 1) s
    have hlift := hc₁.withTail hlet
    rcases hstop with hlen | ⟨hlen, hdone | hrefused⟩
    · -- Alone, it would go on after the whole run has stopped at `u`.
      obtain ⟨tr₃, hc₃, heq⟩ := hc.prefix hlift (by simp [hlen])
      obtain ⟨rfl, -⟩ := hc₃.eq_nil_of_final (.inl (step_eq_done_iff.2 hu))
      have := congrArg List.length heq
      simp [hlen] at this
    · obtain ⟨tr₃, hc₃, -⟩ := hlift.prefix hc (by simp; omega)
      exact ⟨tr₁, t, hc₁, step_eq_done_iff.1 hdone, tr₃, hc₃, hu⟩
    · -- Refused alone, it is refused in the whole run, which then cannot end.
      obtain ⟨tr₃, hc₃, -⟩ := hlift.prefix hc (by simp; omega)
      obtain ⟨-, rfl⟩ := hc₃.eq_nil_of_final (.inr (step_withTail_of_refused hrefused rest))
      exact absurd hu (by simp [program_ne_nil_of_refused hrefused])
  · rintro ⟨tr₁, t, hc₁, -, tr₂, hc₂, hu⟩
    exact ⟨_, (hc₁.withTail hlet).append hc₂, hu⟩

end State

namespace Session

/-- An input that reads with no issue has its reading as its program, strict or not. -/
theorem program_of_issues_eq_nil {ss : Session} {text : String}
    (h : (Reading.ofText text).issues = []) :
    ss.program text = .ok (Reading.ofText text).trees := by
  unfold program Reading.strict
  split <;> simp [h]

/-- A session that repairs takes the reading of every input as its program. -/
theorem program_of_strict_eq_false {ss : Session} {text : String} (h : ss.strict = false) :
    ss.program text = .ok (Reading.ofText text).trees := by
  simp [program, h]

/-- The program of an input depends only on the session's settings, not on its dictionary or
    stack. -/
@[simp] theorem program_with_state (ss : Session) (d : Dictionary) (st : Stack) (text : String) :
    ({ ss with dictionary := d, stack := st } : Session).program text = ss.program text := rfl

/-- Without a limit, an evaluation of an input that reads as `trees` succeeds in the end exactly
    when a chain of steps from the session's dictionary and stack, on `trees`, reaches an empty
    program; the session then takes the dictionary and the stack of that state. -/
theorem eval_ok_iff_chain {ss ss' : Session} {text : String} {trees : List Tree}
    (hlimit : ss.limit = none) (hp : ss.program text = .ok trees) :
    (∃ fuel, ss.eval fuel text = some (.ok ss')) ↔
      ∃ tr t, (State.start ss.dictionary ss.stack trees).Chain tr t ∧ t.program.items = [] ∧
        ss' = { ss with dictionary := t.dictionary, stack := t.stack } := by
  simp only [eval_eq_some_ok_iff, hlimit, hp, Except.ok.injEq]
  constructor
  · rintro ⟨fuel, _, t, rfl, hrun, rfl⟩
    obtain ⟨he, hp⟩ := (State.run_none_eq_ok_iff _ _ fuel).1 ⟨(), hrun⟩
    obtain ⟨tr, hc, -, -⟩ := State.evaluate_eq_some_iff.1 he
    exact ⟨tr, t, hc, hp, rfl⟩
  · rintro ⟨tr, t, hc, hp, rfl⟩
    -- Fuel for every step of the chain, and one more to see that it is done.
    exact ⟨tr.length + 1, trees, t, rfl, (State.driveOn_eq_some_iff _).2
      ⟨tr, t, hc, Nat.lt_succ_self _, rfl, .inl ⟨State.step_eq_done_iff.2 hp, rfl⟩⟩, rfl⟩

/-- Without a limit, evaluating an input whose program is that of a first input followed by that
    of a second succeeds exactly when evaluating the first succeeds and evaluating the second
    then succeeds, when the second program does not start with `let`. -/
theorem eval_ok_append_iff {ss ss₂ : Session} {x a b : String} {A B : List Tree}
    (hlimit : ss.limit = none) (hx : ss.program x = .ok (A ++ B)) (ha : ss.program a = .ok A)
    (hb : ss.program b = .ok B) (hlet : B.head? ≠ some (.symbol "let")) :
    (∃ fuel, ss.eval fuel x = some (.ok ss₂)) ↔
      ∃ ss₁, (∃ fuel, ss.eval fuel a = some (.ok ss₁)) ∧ ∃ fuel, ss₁.eval fuel b = some (.ok ss₂) := by
  -- The session after the first input, when its run finished in `t`: it keeps the settings.
  let after (t : State) : Session := { ss with dictionary := t.dictionary, stack := t.stack }
  have hafter : ∀ t, (after t).limit = none ∧ (after t).program b = .ok B :=
    fun t => ⟨hlimit, by rw [program_with_state, hb]⟩
  rw [eval_ok_iff_chain hlimit hx, State.start_append]
  constructor
  · rintro ⟨tr, u, hc, hu, rfl⟩
    obtain ⟨tr₁, t, hc₁, ht, tr₂, hc₂, -⟩ := (State.finishes_withTail_iff hlet).1 ⟨tr, hc, hu⟩
    refine ⟨after t, (eval_ok_iff_chain hlimit ha).2 ⟨tr₁, t, hc₁, ht, rfl⟩,
      (eval_ok_iff_chain (hafter t).1 (hafter t).2).2 ⟨tr₂, u, ?_, hu, rfl⟩⟩
    rwa [← State.withTail_of_program_eq_nil ht]
  · rintro ⟨ss₁, h₁, h₂⟩
    obtain ⟨tr₁, t, hc₁, ht, rfl⟩ := (eval_ok_iff_chain hlimit ha).1 h₁
    obtain ⟨tr₂, u, hc₂, hu, rfl⟩ := (eval_ok_iff_chain (hafter t).1 (hafter t).2).1 h₂
    rw [show State.start (after t).dictionary (after t).stack B = t.withTail B from
      (State.withTail_of_program_eq_nil ht _).symm] at hc₂
    obtain ⟨tr, hc, -⟩ := (State.finishes_withTail_iff hlet).2 ⟨tr₁, t, hc₁, ht, tr₂, hc₂, hu⟩
    exact ⟨tr, u, hc, hu, rfl⟩

/-- Splitting an input across two evaluations does not change its meaning. Take a session
    without a step limit and two texts: the first reads with no issue, the second does not
    start with the word `let`, and the session repairs, or the second reads with no issue too.
    The two texts with a blank between them read as the first reading followed by the second.
    Evaluating them at once succeeds, leaving a session, exactly when evaluating the first
    succeeds and evaluating the second then succeeds, leaving that session; and the run of both
    passes through the state in which the first finished, with the second still to run. -/
theorem eval_split {ss ss₂ : Session} {a b : String} (hlimit : ss.limit = none)
    (ha : (Reading.ofText a).issues = [])
    (hlet : ((Token.scan b).map (·.lexeme)).head? ≠ some (.word "let"))
    (hb : ss.strict = false ∨ (Reading.ofText b).issues = []) :
    (Reading.ofText (a ++ " " ++ b)).trees = (Reading.ofText a).trees ++ (Reading.ofText b).trees ∧
    ((∃ fuel, ss.eval fuel (a ++ " " ++ b) = some (.ok ss₂)) ↔
      ∃ ss₁, (∃ fuel, ss.eval fuel a = some (.ok ss₁)) ∧
        ∃ fuel, ss₁.eval fuel b = some (.ok ss₂)) ∧
    (∀ ss₁ fuel, ss.eval fuel a = some (.ok ss₁) → ∃ tr,
      (State.start ss.dictionary ss.stack
        ((Reading.ofText a).trees ++ (Reading.ofText b).trees)).Chain tr
        (State.start ss₁.dictionary ss₁.stack (Reading.ofText b).trees)) := by
  obtain ⟨htrees, hissues⟩ := Reading.ofText_append_blank (b := b) ha
  -- The reading of the second text cannot start with the word `let`.
  have hlet' : (Reading.ofText b).trees.head? ≠ some (.symbol "let") :=
    fun h => hlet (Reading.head?_lexemes_of_head?_ofTokens h)
  have hpa : ss.program a = .ok (Reading.ofText a).trees := program_of_issues_eq_nil ha
  -- The second text, and the two at once, read as their trees, repaired or not.
  have hpb : ss.program b = .ok (Reading.ofText b).trees ∧
      ss.program (a ++ " " ++ b) = .ok ((Reading.ofText a).trees ++ (Reading.ofText b).trees) := by
    rcases hb with hb | hb
    · rw [program_of_strict_eq_false hb, program_of_strict_eq_false hb, htrees]
      exact ⟨rfl, rfl⟩
    · rw [program_of_issues_eq_nil hb, program_of_issues_eq_nil (hissues hb), htrees]
      exact ⟨rfl, rfl⟩
  refine ⟨htrees, eval_ok_append_iff hlimit hpb.2 hpa hpb.1 hlet', fun ss₁ fuel h₁ => ?_⟩
  obtain ⟨tr₁, t, hc₁, ht, rfl⟩ := (eval_ok_iff_chain hlimit hpa).1 ⟨fuel, h₁⟩
  refine ⟨tr₁.map fun p => (p.1, p.2.withTail (Reading.ofText b).trees), ?_⟩
  rw [State.start_append, ← State.withTail_of_program_eq_nil ht]
  exact hc₁.withTail hlet'

/-- A definition given first, and used by the second part. -/
theorem eval_split_definition :
    Session.empty.limit = none ∧ (Reading.ofText "[x] y let").issues = [] ∧
    ((Token.scan "y").map (·.lexeme)).head? ≠ some (.word "let") ∧
    ((Reading.ofText ("[x] y let" ++ " " ++ "y")).trees =
        (Reading.ofText "[x] y let").trees ++ (Reading.ofText "y").trees ∧
      ((∃ fuel, Session.empty.eval fuel ("[x] y let" ++ " " ++ "y") = some (.ok Session.empty)) ↔
        ∃ ss₁, (∃ fuel, Session.empty.eval fuel "[x] y let" = some (.ok ss₁)) ∧
          ∃ fuel, ss₁.eval fuel "y" = some (.ok Session.empty)) ∧
      (∀ ss₁ fuel, Session.empty.eval fuel "[x] y let" = some (.ok ss₁) → ∃ tr,
        (State.start Session.empty.dictionary Session.empty.stack
          ((Reading.ofText "[x] y let").trees ++ (Reading.ofText "y").trees)).Chain tr
          (State.start ss₁.dictionary ss₁.stack (Reading.ofText "y").trees))) := by
  have ha : (Reading.ofText "[x] y let").issues = [] := by decide +kernel
  have hlet : ((Token.scan "y").map (·.lexeme)).head? ≠ some (.word "let") := by decide +kernel
  exact ⟨rfl, ha, hlet, eval_split rfl ha hlet (.inl rfl)⟩

end Session

end Concat
