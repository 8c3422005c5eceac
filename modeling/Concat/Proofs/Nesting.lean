import Concat.Session
import Concat.Proofs.Runs

/-!
# The nesting limit

No tree the library builds is deeper than `Tree.nestingLimit`. A state is *within the limit*
when every tree it holds, bound in its dictionary, on its stack or in its program, is at most
that deep (`State.WithinLimit`); so is a session when its dictionary and its stack are.

* `readFrom_within`: reading never builds a deeper tree, since it stops at a `[` that would
  open one level too many;
* `Fires.within`: a rule keeps a state within the limit, except a `cons` that would build a
  deeper quotation, which is exactly the step the machine refuses (`refused_iff_too_deep`);
* `Chain.within`: so does every chain of steps, and every run and every session built from
  read text.
-/

namespace Concat

namespace Tree

@[simp] theorem depthList_append (xs ys : List Tree) :
    depthList (xs ++ ys) = max (depthList xs) (depthList ys) := by
  induction xs with
  | nil => simp
  | cons x xs ih => simp [ih, Nat.max_assoc]

theorem depthList_le_iff {ts : List Tree} {k : Nat} : depthList ts ≤ k ↔ ∀ t ∈ ts, t.depth ≤ k := by
  induction ts with
  | nil => simp
  | cons t ts ih => rw [depthList_cons, Nat.max_le, ih, List.forall_mem_cons]

@[simp] theorem depthList_reverse (ts : List Tree) : depthList ts.reverse = depthList ts := by
  refine Nat.le_antisymm (depthList_le_iff.2 fun t ht => ?_) (depthList_le_iff.2 fun t ht => ?_)
  · exact depthList_le_iff.1 (Nat.le_refl _) t (List.mem_reverse.1 ht)
  · exact depthList_le_iff.1 (Nat.le_refl _) t (List.mem_reverse.2 ht)

end Tree

namespace Dictionary

/-- The depth of the deepest tree a dictionary binds, zero when it binds none. -/
def depth (d : Dictionary) : Nat := Tree.depthList (d.entries.map (·.2))

theorem depth_insertSorted (n : String) (v : Tree) (es : List (String × Tree)) :
    Tree.depthList ((insertSorted n v es).map (·.2)) ≤ max v.depth (Tree.depthList (es.map (·.2))) := by
  fun_induction insertSorted n v es with
  | case1 => simp
  | case2 k w rest _ => simp
  | case3 =>
    -- The new binding replaces the old one, so the bound can only drop.
    simp only [List.map_cons, Tree.depthList_cons]
    omega
  | case4 k w rest _ _ ih =>
    simp only [List.map_cons, Tree.depthList_cons]
    omega

/-- Binding a tree makes a dictionary no deeper than that tree or the dictionary was. -/
theorem depth_define (d : Dictionary) (n : String) (v : Tree) :
    (d.define n v).depth ≤ max v.depth d.depth :=
  depth_insertSorted n v d.entries

/-- A bound tree is no deeper than the dictionary. -/
theorem depth_le_of_get? {d : Dictionary} {n : String} {t : Tree} (h : d.get? n = some t) :
    t.depth ≤ d.depth := by
  obtain ⟨e, he, rfl⟩ := Option.map_eq_some_iff.1 h
  exact Tree.depthList_le_iff.1 (Nat.le_refl _) e.2
    (List.mem_map.2 ⟨e, List.mem_of_find?_eq_some he, rfl⟩)

end Dictionary

namespace Reading

/-- The open quotations of a reading fit under the limit: the items of each of them, closed
    in it and in every quotation around it, are at most `Tree.nestingLimit` deep. -/
def Fits : List Frame → Prop
  | [] => True
  | f :: fs => Tree.depthList f.items + fs.length < Tree.nestingLimit ∧ Fits fs

/-- A tree that fits at the innermost open level can be added there. -/
theorem fits_addItem {t : Tree} {frames fs' : List Frame} {top top' : List Tree}
    (h : addItem t frames top = (fs', top')) (hf : Fits frames)
    (htop : Tree.depthList top ≤ Tree.nestingLimit)
    (ht : t.depth + frames.length ≤ Tree.nestingLimit) :
    Fits fs' ∧ fs'.length = frames.length ∧ Tree.depthList top' ≤ Tree.nestingLimit := by
  cases frames with
  | nil =>
    cases h
    refine ⟨trivial, rfl, ?_⟩
    simp at ht ⊢
    omega
  | cons f fs =>
    cases h
    obtain ⟨hf1, hfs⟩ := hf
    refine ⟨⟨?_, hfs⟩, rfl, htop⟩
    simp at ht ⊢
    omega

/-- Closing the open quotations that fit gives trees within the limit. -/
theorem closeAll_within {frames : List Frame} {top : List Tree} (hf : Fits frames)
    (htop : Tree.depthList top ≤ Tree.nestingLimit) :
    Tree.depthList (closeAll frames top) ≤ Tree.nestingLimit := by
  fun_induction closeAll frames top with
  | case1 top => simpa using htop
  | case2 f top =>
    simp only [Fits, List.length_nil] at hf
    simp
    omega
  | case3 f g fs top ih =>
    -- The innermost quotation, closed, becomes an item of the next one out.
    obtain ⟨hf1, hg, hfs⟩ := hf
    simp only [List.unattach_reverse, List.unattach_attach] at ih
    refine ih ⟨?_, hfs⟩ htop
    simp only [List.length_cons] at hf1
    simp
    omega

/-- Reading from open quotations that fit gives trees within the limit: a `[` opens a level only
    while fewer than `Tree.nestingLimit` are open, and a closed quotation fits where it is
    added. -/
theorem readFrom_within {ts : List Token} {frames : List Frame} {top : List Tree}
    (hf : Fits frames) (hlen : frames.length ≤ Tree.nestingLimit)
    (htop : Tree.depthList top ≤ Tree.nestingLimit) :
    Tree.depthList (readFrom ts frames top).trees ≤ Tree.nestingLimit := by
  fun_induction readFrom ts frames top with
  | case1 frames top => exact closeAll_within hf htop
  | case2 sp ts frames top _ => exact closeAll_within hf htop
  | case3 sp ts frames top hopen ih =>
    refine ih ⟨?_, hf⟩ ?_ htop <;> simp <;> omega
  | case4 sp ts top => simpa using htop
  | case5 sp ts f fs top fs' top' hadd ih =>
    obtain ⟨hf1, hfs⟩ := hf
    have hq : (Tree.quotation f.items.reverse).depth + fs.length ≤ Tree.nestingLimit := by
      simp
      omega
    obtain ⟨hf', hlen', htop'⟩ := fits_addItem hadd hfs htop hq
    exact ih hf' (by simp at hlen; omega) htop'
  | case6 w sp ts frames top fs' top' hadd ih =>
    obtain ⟨hf', hlen', htop'⟩ := fits_addItem hadd hf htop (by simpa using hlen)
    exact ih hf' (by omega) htop'

/-- Reading tokens never builds a tree deeper than `Tree.nestingLimit`. -/
theorem ofTokens_within (ts : List Token) :
    Tree.depthList (ofTokens ts).trees ≤ Tree.nestingLimit :=
  readFrom_within trivial (Nat.zero_le _) (Nat.zero_le _)

/-- Strict reading, when it succeeds, gives the trees of the reading. -/
theorem strict_eq_ok {r : Reading} {trees : List Tree} (h : r.strict = .ok trees) :
    trees = r.trees := by
  unfold strict at h
  split at h
  · cases h
    rfl
  · cases h

end Reading

namespace State

/-- Every tree the state holds, bound in its dictionary, on its stack or in its program, is at
    most `Tree.nestingLimit` deep. -/
structure WithinLimit (s : State) : Prop where
  dictionary : s.dictionary.depth ≤ Tree.nestingLimit
  stack : Tree.depthList s.stack.items ≤ Tree.nestingLimit
  program : Tree.depthList s.program.items ≤ Tree.nestingLimit

variable {s t : State} {r : Rule}

/-- A rule keeps a state within the limit, unless it is a `cons` that overflows: the `cons`
    builds a quotation one level deeper than the value it takes in, while the other rules only
    move trees the state holds, or items of quotations it holds. -/
theorem Fires.within (hf : s.Fires r t) (hs : s.WithinLimit) (ho : ¬ s.Overflows) :
    t.WithinLimit := by
  obtain ⟨hd, hst, hpr⟩ := hs
  cases hf with
  | @cons q v below rest hp hq =>
    have hv : v.depth < Tree.nestingLimit :=
      Nat.lt_of_not_le fun hv => ho ⟨rest, q, v, below, hp, hq, hv⟩
    rw [hq] at hst
    rw [hp] at hpr
    refine ⟨hd, ?_, ?_⟩ <;> simp at hst hpr ⊢ <;> omega
  | @snoc v q below rest hp hq =>
    rw [hq] at hst
    rw [hp] at hpr
    refine ⟨hd, ?_, ?_⟩ <;> simp at hst hpr ⊢ <;> omega
  | @eq f t' y x below rest hp hq =>
    rw [hq] at hst
    rw [hp] at hpr
    refine ⟨hd, ?_, ?_⟩
    · by_cases hxy : x = y <;> simp [hxy] at hst ⊢ <;> omega
    · simpa using hpr
  | @bind n v below rest hp hq =>
    rw [hq] at hst
    rw [hp] at hpr
    have hdef := Dictionary.depth_define s.dictionary n v
    refine ⟨?_, ?_, ?_⟩ <;> simp at hst hpr ⊢ <;> omega
  | @rename n a rest hp _ =>
    rw [hp] at hpr
    exact ⟨hd, hst, by simpa using hpr⟩
  | @expand n body rest hp hb =>
    -- The items of a bound quotation are one level shallower than the dictionary allows.
    have hbody := Dictionary.depth_le_of_get? hb
    rw [hp] at hpr
    refine ⟨hd, hst, ?_⟩
    simp at hbody hpr ⊢
    omega
  | @pushWord n rest hp _ =>
    rw [hp] at hpr
    refine ⟨hd, ?_, ?_⟩ <;> simp [Stack.push] at hst hpr ⊢ <;> omega
  | @pushQuotation q rest hp =>
    rw [hp] at hpr
    refine ⟨hd, ?_, ?_⟩ <;> simp [Stack.push] at hst hpr ⊢ <;> omega

/-- A step that applies a rule keeps a state within the limit. -/
theorem step_within (h : s.step = .next r t) (hs : s.WithinLimit) : t.WithinLimit := by
  obtain ⟨⟨hf, -⟩, ho⟩ := step_eq_next_iff.1 h
  exact hf.within hs ho

/-- Within the limit, a step is refused exactly when its `cons` would build a quotation one
    level deeper than the limit, and never before. -/
theorem refused_iff_too_deep (hs : s.WithinLimit) :
    s.step = .refused ↔ ∃ rest q v below, s.program.items = .symbol "cons" :: rest ∧
      s.stack.items = .quotation q :: v :: below ∧
      (Tree.quotation (v :: q)).depth = Tree.nestingLimit + 1 := by
  rw [step_eq_refused_iff]
  have hst := hs.stack
  constructor
  · rintro ⟨rest, q, v, below, hp, hq, hv⟩
    refine ⟨rest, q, v, below, hp, hq, ?_⟩
    rw [hq] at hst
    simp at hst ⊢
    omega
  · rintro ⟨rest, q, v, below, hp, hq, hv⟩
    refine ⟨rest, q, v, below, hp, hq, ?_⟩
    rw [hq] at hst
    simp at hst hv
    omega

/-- Every state of a chain from a state within the limit is within the limit. -/
theorem Chain.within {tr : List (Rule × State)} (h : s.Chain tr t) (hs : s.WithinLimit) :
    t.WithinLimit ∧ ∀ p ∈ tr, p.2.WithinLimit := by
  induction h with
  | nil => exact ⟨hs, by simp⟩
  | cons hstep _ ih =>
    have ht := step_within hstep hs
    obtain ⟨hu, hall⟩ := ih ht
    refine ⟨hu, ?_⟩
    simp only [List.mem_cons, forall_eq_or_imp]
    exact ⟨ht, hall⟩

/-- The evaluation of a state within the limit gives a state within the limit. -/
theorem evaluate_within {fuel : Nat} (hs : s.WithinLimit) (h : s.evaluate fuel = some t) :
    t.WithinLimit := by
  obtain ⟨tr, hc, -⟩ := evaluate_eq_some_iff.1 h
  exact (hc.within hs).1

/-- A run from a state within the limit shows its observer only states within the limit, and
    finishes in one. -/
theorem run_within {β : Type} {see : β → Rule → State → β} {acc b : β} {limit : Option Nat}
    {fuel : Nat} {o : Except EvalError State} (hs : s.WithinLimit)
    (h : s.run limit fuel see acc = some (b, o)) :
    ∃ tr, b = gather see acc tr ∧ (∀ p ∈ tr, p.2.WithinLimit) ∧ ∀ t, o = .ok t → t.WithinLimit := by
  obtain ⟨tr, u, hc, hb⟩ := run_gathers_chain h
  refine ⟨tr, hb, (hc.within hs).2, ?_⟩
  rintro t rfl
  obtain ⟨tr', hc'⟩ := run_ok_chain h
  exact (hc'.within hs).1

/-- A state whose dictionary and stack are within the limit, and whose program is read from
    tokens, is within the limit. -/
theorem start_within {d : Dictionary} {st : Stack} (hd : d.depth ≤ Tree.nestingLimit)
    (hst : Tree.depthList st.items ≤ Tree.nestingLimit) (ts : List Token) :
    (State.start d st (Reading.ofTokens ts).trees).WithinLimit :=
  ⟨hd, hst, Reading.ofTokens_within ts⟩

end State

namespace Session

/-- Every tree a session holds, bound in its dictionary or on its stack, is at most
    `Tree.nestingLimit` deep. -/
structure WithinLimit (ss : Session) : Prop where
  dictionary : ss.dictionary.depth ≤ Tree.nestingLimit
  stack : Tree.depthList ss.stack.items ≤ Tree.nestingLimit

/-- A session that takes its dictionary and stack from a state within the limit is within the
    limit, whatever its settings. -/
theorem within_of_state {s : State} (h : s.WithinLimit) (strict : Bool) (limit : Option Nat) :
    (Session.mk s.dictionary s.stack strict limit).WithinLimit :=
  ⟨h.dictionary, h.stack⟩

/-- The program of an input is what reading its text gives, strictly read or not. -/
theorem program_eq_ok {ss : Session} {text : String} {trees : List Tree}
    (h : ss.program text = .ok trees) : trees = (Reading.ofText text).trees := by
  unfold program at h
  split at h
  · exact Reading.strict_eq_ok h
  · cases h
    rfl

/-- An evaluation that succeeds leaves a session within the limit if it was, whatever its
    observer. -/
theorem evalObserving_within {β : Type} {see : β → Rule → State → β} {acc b : β}
    {fuel : Nat} {ss ss' : Session} {text : String} (hs : ss.WithinLimit)
    (h : ss.evalObserving see acc fuel text = some (b, .ok ss')) : ss'.WithinLimit := by
  unfold evalObserving at h
  split at h
  next => cases h
  next trees htrees =>
    obtain ⟨⟨seen, res⟩, hrun, hres⟩ := Option.map_eq_some_iff.1 h
    cases res with
    | error e => cases hres
    | ok t =>
      cases hres
      obtain ⟨tr, hc⟩ := State.run_ok_chain hrun
      have hstart := State.start_within hs.dictionary hs.stack (Token.scan text)
      rw [← Reading.ofText, ← program_eq_ok htrees] at hstart
      exact within_of_state (hc.within hstart).1 ss.strict ss.limit

theorem empty_within : Session.empty.WithinLimit :=
  ⟨Nat.zero_le _, Nat.zero_le _⟩

/-- Loading the standard words leaves a session within the limit: they are read from text,
    and evaluated. The loaded state goes to `within_of_state` whole: the kernel, asked to take
    its fields apart, would run the loading again. -/
theorem withPrelude_within : Session.withPrelude.WithinLimit := by
  have hstart : (State.start .empty .empty (Reading.ofText Prelude.source).trees).WithinLimit :=
    State.start_within (Nat.zero_le _) (Nat.zero_le _) _
  have hloaded : Prelude.loaded.WithinLimit := by
    unfold Prelude.loaded
    cases he : (State.start .empty .empty (Reading.ofText Prelude.source).trees).evaluate
        State.allowance with
    | none => exact ⟨Nat.zero_le _, Nat.zero_le _, Nat.zero_le _⟩
    | some t => exact State.evaluate_within hstart he
  exact within_of_state hloaded false none

end Session

namespace State

/-- The nesting limit holds everywhere. A step that applies a rule keeps a state within the
    limit, and within the limit a step is refused exactly when its `cons` would build a
    quotation of depth `Tree.nestingLimit + 1`. Read text, a fresh session (with the standard
    words or without) and a session after a successful evaluation are within the limit. From a
    state within the limit, every state of a chain, the state an evaluation gives, the state a
    run with a limit finishes in, and every state a run shows its observer or finishes in, is
    within the limit. -/
theorem nesting_limit_invariant :
    (∀ (s : State) r t, s.WithinLimit → s.step = .next r t → t.WithinLimit) ∧
    (∀ s : State, s.WithinLimit → (s.step = .refused ↔ ∃ rest q v below,
      s.program.items = .symbol "cons" :: rest ∧ s.stack.items = .quotation q :: v :: below ∧
      (Tree.quotation (v :: q)).depth = Tree.nestingLimit + 1)) ∧
    (∀ ts, ∀ t ∈ (Reading.ofTokens ts).trees, t.depth ≤ Tree.nestingLimit) ∧
    Session.empty.WithinLimit ∧ Session.withPrelude.WithinLimit ∧
    (∀ {β : Type} (see : β → Rule → State → β) (acc b : β) (fuel : Nat) (ss ss' : Session)
      (text : String), ss.WithinLimit → ss.evalObserving see acc fuel text = some (b, .ok ss') →
        ss'.WithinLimit) ∧
    (∀ (s : State) tr t, s.WithinLimit → s.Chain tr t → t.WithinLimit ∧
      ∀ p ∈ tr, p.2.WithinLimit) ∧
    (∀ (s t : State) fuel, s.WithinLimit → s.evaluate fuel = some t → t.WithinLimit) ∧
    (∀ (s : State) n t, s.WithinLimit → s.runFor n = .ok t → t.WithinLimit) ∧
    (∀ {β : Type} (see : β → Rule → State → β) (acc b : β) (s : State) (limit : Option Nat)
      (fuel : Nat) (o : Except EvalError State), s.WithinLimit →
        s.run limit fuel see acc = some (b, o) →
        ∃ tr, b = gather see acc tr ∧ (∀ p ∈ tr, p.2.WithinLimit) ∧
          ∀ t, o = .ok t → t.WithinLimit) := by
  refine ⟨fun _ _ _ hs h => step_within h hs, fun _ hs => refused_iff_too_deep hs,
    fun ts => Tree.depthList_le_iff.1 (Reading.ofTokens_within ts), Session.empty_within,
    Session.withPrelude_within, fun _ _ _ _ _ _ _ hs h => Session.evalObserving_within hs h,
    fun _ _ _ hs h => h.within hs, fun _ _ _ hs h => evaluate_within hs h, ?_,
    fun _ _ _ _ _ _ _ hs h => run_within hs h⟩
  intro s n t hs h
  obtain ⟨tr, hc, -⟩ := runFor_eq_ok_iff.1 h
  exact (hc.within hs).1

end State

end Concat
