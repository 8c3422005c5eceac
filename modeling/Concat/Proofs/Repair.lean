import Concat.Proofs.Nesting

/-!
# Reading is repair followed by exact reading

Reading never fails: it repairs the brackets of its tokens and reads exactly what the repair
gives. The repair is stated here on the lexemes alone, without the reader. A reading keeps the
tokens up to the first one that *stops* it (`Reading.stopsAt`): a `]` met with no quotation
open, or a `[` met with `Tree.nestingLimit` of them open. It then closes every quotation still
open (`Reading.repair`). The issues are read off where the reading stopped
(`Reading.stopIssues`): the bracket that stopped it, or else every `[` left open at the end.

* `Tree.lexemesList_inj`: a list of trees is determined by its lexemes, which are a prefix code;
* `Reading.lexemesList_readFrom` and `Reading.issues_readFrom`: from any open quotations, the
  reader spells what it has read so far followed by the repair of the tokens left, and reports
  the issues of the tokens left;
* `Reading.keptFrom_first`: the repair keeps exactly the lexemes before the first that stops it;
* `Reading.reads_repair`: the trees read are the one list spelled by the repair, no deeper than
  the limit, with one of four lists of issues, and strict reading takes the first of them.
-/

namespace Concat

namespace Tree

theorem lexemesList_append (xs ys : List Tree) :
    lexemesList (xs ++ ys) = lexemesList xs ++ lexemesList ys := by
  induction xs with
  | nil => simp
  | cons x xs ih => simp [ih]

/-- The lexemes of a tree, whatever follows them, never start with a `]`. -/
theorem lexemes_append_ne_closeBracket_cons (t : Tree) (m l : List Lexeme) :
    t.lexemes ++ m ≠ .closeBracket :: l := by
  cases t <;> simp

mutual

/-- A tree is read off the front of its lexemes, whatever follows them. -/
theorem lexemes_append_inj : (t u : Tree) → (l l' : List Lexeme) →
    t.lexemes ++ l = u.lexemes ++ l' → t = u ∧ l = l'
  | .symbol s, .symbol s', l, l', h => by simp_all
  | .symbol _, .quotation _, _, _, h => by simp at h
  | .quotation _, .symbol _, _, _, h => by simp at h
  | .quotation xs, .quotation ys, l, l', h => by
    simp only [lexemes_quotation, List.cons_append, List.cons.injEq, true_and,
      List.append_assoc] at h
    obtain ⟨rfl, rfl⟩ := lexemesList_append_inj xs ys l l' h
    exact ⟨rfl, rfl⟩

/-- The lexemes of a list of trees, followed by a `]`, determine the list and what follows. -/
theorem lexemesList_append_inj : (ts us : List Tree) → (l l' : List Lexeme) →
    lexemesList ts ++ .closeBracket :: l = lexemesList us ++ .closeBracket :: l' →
      ts = us ∧ l = l'
  | [], [], l, l', h => by simpa using h
  | [], u :: us, l, l', h => by
    simp only [lexemesList_nil, List.nil_append, lexemesList_cons, List.append_assoc] at h
    -- The `]` would have to start the lexemes of `u`.
    exact absurd h.symm (lexemes_append_ne_closeBracket_cons u _ l)
  | t :: ts, [], l, l', h => by
    simp only [lexemesList_nil, List.nil_append, lexemesList_cons, List.append_assoc] at h
    exact absurd h (lexemes_append_ne_closeBracket_cons t _ l')
  | t :: ts, u :: us, l, l', h => by
    simp only [lexemesList_cons, List.append_assoc] at h
    obtain ⟨rfl, h'⟩ := lexemes_append_inj t u _ _ h
    obtain ⟨rfl, rfl⟩ := lexemesList_append_inj ts us l l' h'
    exact ⟨rfl, rfl⟩

end

/-- A list of trees is determined by its lexemes. -/
theorem lexemesList_inj {ts us : List Tree} (h : lexemesList ts = lexemesList us) : ts = us :=
  (lexemesList_append_inj ts us [] [] (by rw [h])).1

end Tree

namespace Reading

/-! ## The repair, on lexemes -/

/-- Whether the lexeme `l` stops a reading that has `n` quotations open: a `]` with none open,
    or a `[` with `Tree.nestingLimit` open. -/
def stopsAt (n : Nat) : Lexeme → Bool
  | .closeBracket => n == 0
  | .openBracket => Tree.nestingLimit ≤ n
  | .word _ => false

/-- How many quotations are open after the lexeme `l`, when `n` were open before it. -/
def levelStep (n : Nat) : Lexeme → Nat
  | .openBracket => n + 1
  | .closeBracket => n - 1
  | .word _ => n

/-- How many quotations are open after the lexemes `ls`, when `n` were open before them. -/
def levelAfter (n : Nat) (ls : List Lexeme) : Nat := ls.foldl levelStep n

/-- How many of the lexemes `ls` a reading keeps when `n` quotations are open before them: those
    before the first lexeme that stops it. -/
def keptFrom (n : Nat) : List Lexeme → Nat
  | [] => 0
  | l :: ls => if stopsAt n l then 0 else keptFrom (levelStep n l) ls + 1

/-- What a reading of the lexemes `ls` stands for, when `n` quotations are open before them: the
    lexemes it keeps, then a `]` for every quotation still open after them. -/
def repairFrom (n : Nat) (ls : List Lexeme) : List Lexeme :=
  ls.take (keptFrom n ls) ++ List.replicate (levelAfter n (ls.take (keptFrom n ls))) .closeBracket

/-- What a reading of a token list stands for: its repair from no open quotation. -/
def repair (ts : List Token) : List Lexeme := repairFrom 0 (ts.map (·.lexeme))

@[simp] theorem levelAfter_nil (n : Nat) : levelAfter n [] = n := rfl

@[simp] theorem levelAfter_cons (n : Nat) (l : Lexeme) (ls : List Lexeme) :
    levelAfter n (l :: ls) = levelAfter (levelStep n l) ls := rfl

theorem levelAfter_append (n : Nat) (ls ls' : List Lexeme) :
    levelAfter n (ls ++ ls') = levelAfter (levelAfter n ls) ls' :=
  List.foldl_append

@[simp] theorem keptFrom_nil (n : Nat) : keptFrom n [] = 0 := rfl

theorem keptFrom_cons_of_stopsAt {n : Nat} {l : Lexeme} (h : stopsAt n l = true)
    (ls : List Lexeme) : keptFrom n (l :: ls) = 0 := by
  simp [keptFrom, h]

theorem keptFrom_cons_of_not_stopsAt {n : Nat} {l : Lexeme} (h : stopsAt n l = false)
    (ls : List Lexeme) : keptFrom n (l :: ls) = keptFrom (levelStep n l) ls + 1 := by
  simp [keptFrom, h]

@[simp] theorem repairFrom_nil (n : Nat) : repairFrom n [] = List.replicate n .closeBracket := by
  simp [repairFrom]

/-- A lexeme that stops the reading is dropped with all that follows it. -/
theorem repairFrom_cons_of_stopsAt {n : Nat} {l : Lexeme} (h : stopsAt n l = true)
    (ls : List Lexeme) : repairFrom n (l :: ls) = List.replicate n .closeBracket := by
  simp [repairFrom, keptFrom_cons_of_stopsAt h]

/-- A lexeme that does not stop the reading is kept, and the reading goes on at its level. -/
theorem repairFrom_cons_of_not_stopsAt {n : Nat} {l : Lexeme} (h : stopsAt n l = false)
    (ls : List Lexeme) : repairFrom n (l :: ls) = l :: repairFrom (levelStep n l) ls := by
  simp [repairFrom, keptFrom_cons_of_not_stopsAt h]

/-- The lexemes a reading keeps are those before the first that stops it: no kept lexeme stops
    the reading at the level where it stands, and the first lexeme left, if any, does. -/
theorem keptFrom_first (n : Nat) (ls : List Lexeme) :
    (∀ pre l post, ls.take (keptFrom n ls) = pre ++ l :: post →
      stopsAt (levelAfter n pre) l = false) ∧
    (∀ l post, ls.drop (keptFrom n ls) = l :: post →
      stopsAt (levelAfter n (ls.take (keptFrom n ls))) l = true) := by
  induction ls generalizing n with
  | nil => simp
  | cons l ls ih =>
    cases hl : stopsAt n l with
    | true =>
      rw [keptFrom_cons_of_stopsAt hl]
      refine ⟨fun pre l' post h => ?_, fun l' post h => ?_⟩
      · simp at h
      · simp only [List.drop_zero, List.cons.injEq] at h
        obtain ⟨rfl, -⟩ := h
        simpa using hl
    | false =>
      rw [keptFrom_cons_of_not_stopsAt hl]
      obtain ⟨ihKept, ihNext⟩ := ih (levelStep n l)
      refine ⟨fun pre l' post h => ?_, fun l' post h => ?_⟩
      · -- The kept lexeme is `l` itself, or one kept after it.
        cases pre with
        | nil =>
          simp only [List.take_succ_cons, List.nil_append, List.cons.injEq] at h
          obtain ⟨rfl, -⟩ := h
          simpa using hl
        | cons p pre =>
          simp only [List.take_succ_cons, List.cons_append, List.cons.injEq] at h
          obtain ⟨rfl, h⟩ := h
          simpa using ihKept pre l' post h
      · simpa using ihNext l' post (by simpa using h)

/-! ## Balanced lexemes -/

/-- The lexemes `ls` are *balanced* at the level `n`: a reading with `n` quotations open before
    them keeps all of them, and has `n` open again after them. -/
def Balanced (n : Nat) (ls : List Lexeme) : Prop :=
  keptFrom n ls = ls.length ∧ levelAfter n ls = n

theorem keptFrom_le_length (n : Nat) (ls : List Lexeme) : keptFrom n ls ≤ ls.length := by
  induction ls generalizing n with
  | nil => simp
  | cons l ls ih =>
    cases hl : stopsAt n l with
    | false =>
      rw [keptFrom_cons_of_not_stopsAt hl]
      simpa using ih (levelStep n l)
    | true =>
      rw [keptFrom_cons_of_stopsAt hl]
      simp

/-- Lexemes that a reading keeps whole are followed by a reading at the level they leave. -/
theorem keptFrom_append_of_eq_length {n : Nat} {ls : List Lexeme}
    (h : keptFrom n ls = ls.length) (rest : List Lexeme) :
    keptFrom n (ls ++ rest) = ls.length + keptFrom (levelAfter n ls) rest := by
  induction ls generalizing n with
  | nil => simp
  | cons l ls ih =>
    cases hl : stopsAt n l with
    | false =>
      rw [keptFrom_cons_of_not_stopsAt hl, List.length_cons, Nat.add_right_cancel_iff] at h
      rw [List.cons_append, keptFrom_cons_of_not_stopsAt hl, ih h, levelAfter_cons,
        List.length_cons]
      omega
    | true =>
      rw [keptFrom_cons_of_stopsAt hl] at h
      simp at h

theorem Balanced.append {n : Nat} {ls ls' : List Lexeme} (h : Balanced n ls)
    (h' : Balanced n ls') : Balanced n (ls ++ ls') := by
  obtain ⟨hk, hl⟩ := h
  obtain ⟨hk', hl'⟩ := h'
  refine ⟨?_, ?_⟩
  · rw [keptFrom_append_of_eq_length hk, hl, hk', List.length_append]
  · rw [levelAfter_append, hl, hl']

/-- Balanced lexemes are kept as they are, ahead of the repair of what follows them. -/
theorem repairFrom_append_of_balanced {n : Nat} {ls : List Lexeme} (h : Balanced n ls)
    (rest : List Lexeme) : repairFrom n (ls ++ rest) = ls ++ repairFrom n rest := by
  obtain ⟨hk, hl⟩ := h
  simp only [repairFrom, keptFrom_append_of_eq_length hk, hl, List.take_length_add_append,
    levelAfter_append, List.append_assoc]

/-- Balanced lexemes are their own repair. -/
theorem repairFrom_of_balanced {ls : List Lexeme} (h : Balanced 0 ls) : repairFrom 0 ls = ls := by
  simpa using repairFrom_append_of_balanced h []

mutual

/-- The lexemes of a tree are balanced at every level that leaves room for its depth. -/
theorem balanced_lexemes : (t : Tree) → (n : Nat) → t.depth + n ≤ Tree.nestingLimit →
    Balanced n t.lexemes
  | .symbol _, n, _ => by simp [Balanced, keptFrom, stopsAt, levelStep]
  | .quotation items, n, h => by
    rw [Tree.depth_quotation] at h
    -- The items are balanced one level in, and the `]` closes that level again.
    obtain ⟨hk, hl⟩ := balanced_lexemesList items (n + 1) (by omega)
    have hopen : stopsAt n .openBracket = false := by
      simp only [stopsAt, decide_eq_false_iff_not, Nat.not_le]
      omega
    have hclose : stopsAt (n + 1) .closeBracket = false := by simp [stopsAt]
    refine ⟨?_, ?_⟩
    · rw [Tree.lexemes_quotation, keptFrom_cons_of_not_stopsAt hopen]
      show keptFrom (n + 1) _ + 1 = _
      rw [keptFrom_append_of_eq_length hk, hl, keptFrom_cons_of_not_stopsAt hclose]
      simp
    · simp [levelAfter_append, levelStep, hl]

/-- The lexemes of a list of trees are balanced at every level that leaves room for its
    depth. -/
theorem balanced_lexemesList : (ts : List Tree) → (n : Nat) →
    Tree.depthList ts + n ≤ Tree.nestingLimit → Balanced n (Tree.lexemesList ts)
  | [], n, _ => by simp [Balanced]
  | t :: ts, n, h => by
    rw [Tree.depthList_cons] at h
    rw [Tree.lexemesList_cons]
    exact (balanced_lexemes t n (by omega)).append (balanced_lexemesList ts n (by omega))

end

/-! ## Open brackets and issues, on tokens -/

/-- The `[`s open after one more token, innermost first. -/
def openStep (opens : List Span) (t : Token) : List Span :=
  match t.lexeme with
  | .openBracket => t.span :: opens
  | .closeBracket => opens.tail
  | .word _ => opens

/-- The `[`s still open after the tokens `ts`, innermost first, when `opens` were open before
    them: a `[` opens one more, a `]` closes the innermost, and a word changes nothing. -/
def openAfter (opens : List Span) (ts : List Token) : List Span := ts.foldl openStep opens

/-- The issues of a reading of the tokens `ts`, with the `[`s `opens` open before them, read off
    where it stops: the `]` or the `[` that stopped it, or else every `[` still open at the end,
    innermost first. -/
def stopIssues (opens : List Span) (ts : List Token) : List ParseIssue :=
  match ts.drop (keptFrom opens.length (ts.map (·.lexeme))) with
  | ⟨.closeBracket, sp⟩ :: _ => [.strayClose sp]
  | ⟨.openBracket, sp⟩ :: _ => [.tooDeep sp]
  | _ => (openAfter opens ts).map .unclosedOpen

@[simp] theorem openAfter_nil (opens : List Span) : openAfter opens [] = opens := rfl

@[simp] theorem openAfter_cons (opens : List Span) (t : Token) (ts : List Token) :
    openAfter opens (t :: ts) = openAfter (openStep opens t) ts := rfl

theorem length_openStep (opens : List Span) (t : Token) :
    (openStep opens t).length = levelStep opens.length t.lexeme := by
  obtain ⟨l, sp⟩ := t
  cases l <;> simp [openStep, levelStep]

theorem stopIssues_cons_of_not_stopsAt {opens : List Span} {t : Token}
    (h : stopsAt opens.length t.lexeme = false) (ts : List Token) :
    stopIssues opens (t :: ts) = stopIssues (openStep opens t) ts := by
  simp only [stopIssues, List.map_cons, keptFrom_cons_of_not_stopsAt h, List.drop_succ_cons,
    length_openStep]
  rfl

theorem stopIssues_cons_of_stopsAt {opens : List Span} {t : Token}
    (h : stopsAt opens.length t.lexeme = true) (ts : List Token) :
    stopIssues opens (t :: ts) =
      match t.lexeme with
      | .closeBracket => [.strayClose t.span]
      | .openBracket => [.tooDeep t.span]
      | .word _ => [] := by
  obtain ⟨l, sp⟩ := t
  simp only [stopIssues, List.map_cons, keptFrom_cons_of_stopsAt h, List.drop_zero]
  cases l <;> simp_all [stopsAt]

/-! ## The reader against the repair -/

/-- The lexemes that a reading has read so far, given its open quotations (innermost first) and
    the trees of its outermost level (latest first). -/
def spelled : List Frame → List Tree → List Lexeme
  | [], top => Tree.lexemesList top.reverse
  | f :: fs, top => spelled fs top ++ .openBracket :: Tree.lexemesList f.items.reverse

/-- Adding a tree spells its lexemes after what was read, and opens or closes nothing. -/
theorem spelled_addItem {t : Tree} {frames fs' : List Frame} {top top' : List Tree}
    (h : addItem t frames top = (fs', top')) :
    spelled fs' top' = spelled frames top ++ t.lexemes ∧
      fs'.map (·.opening) = frames.map (·.opening) := by
  cases frames with
  | nil =>
    cases h
    simp [spelled, Tree.lexemesList_append]
  | cons f fs =>
    cases h
    simp [spelled, Tree.lexemesList_append]

/-- Closing every open quotation spells a `]` for each of them. -/
theorem lexemesList_closeAll (frames : List Frame) (top : List Tree) :
    Tree.lexemesList (closeAll frames top) =
      spelled frames top ++ List.replicate frames.length .closeBracket := by
  fun_induction closeAll frames top with
  | case1 top => simp [spelled]
  | case2 f top => simp [spelled, Tree.lexemesList_append]
  | case3 f g fs top ih =>
    -- The innermost quotation, closed, is spelled as the last item of the next one out.
    simp only [List.unattach_reverse, List.unattach_attach] at ih
    rw [ih]
    simp [spelled, Tree.lexemesList_append, List.replicate_succ]

/-- From any open quotations, the reader spells what it has read so far followed by the repair
    of the tokens left, with as many quotations open. -/
theorem lexemesList_readFrom (ts : List Token) (frames : List Frame) (top : List Tree) :
    Tree.lexemesList (readFrom ts frames top).trees =
      spelled frames top ++ repairFrom frames.length (ts.map (·.lexeme)) := by
  fun_induction readFrom ts frames top with
  | case1 frames top => simp [lexemesList_closeAll]
  | case2 sp ts frames top hlimit =>
    rw [List.map_cons, repairFrom_cons_of_stopsAt (by simpa [stopsAt] using hlimit)]
    exact lexemesList_closeAll frames top
  | case3 sp ts frames top hlimit ih =>
    rw [List.map_cons, repairFrom_cons_of_not_stopsAt (by simpa [stopsAt] using hlimit), ih]
    simp [spelled, levelStep]
  | case4 sp ts top =>
    simp [repairFrom_cons_of_stopsAt (show stopsAt 0 .closeBracket = true from rfl), spelled]
  | case5 sp ts f fs top fs' top' hadd ih =>
    obtain ⟨hspelled, hopen⟩ := spelled_addItem hadd
    have hlen : fs'.length = fs.length := by simpa using congrArg List.length hopen
    rw [List.map_cons, repairFrom_cons_of_not_stopsAt (by simp [stopsAt]), ih, hspelled, hlen]
    simp [spelled, levelStep]
  | case6 w sp ts frames top fs' top' hadd ih =>
    obtain ⟨hspelled, hopen⟩ := spelled_addItem hadd
    have hlen : fs'.length = frames.length := by simpa using congrArg List.length hopen
    rw [List.map_cons, repairFrom_cons_of_not_stopsAt (by simp [stopsAt]), ih, hspelled, hlen]
    simp [levelStep]

/-- From any open quotations, the reader reports the issues of the tokens left, where their
    reading stops. -/
theorem issues_readFrom (ts : List Token) (frames : List Frame) (top : List Tree) :
    (readFrom ts frames top).issues = stopIssues (frames.map (·.opening)) ts := by
  fun_induction readFrom ts frames top with
  | case1 frames top => simp [stopIssues, openAfter]
  | case2 sp ts frames top hlimit =>
    rw [stopIssues_cons_of_stopsAt (by simpa [stopsAt] using hlimit)]
  | case3 sp ts frames top hlimit ih =>
    rw [stopIssues_cons_of_not_stopsAt (by simpa [stopsAt] using hlimit), ih]
    rfl
  | case4 sp ts top =>
    rw [stopIssues_cons_of_stopsAt (by simp [stopsAt])]
  | case5 sp ts f fs top fs' top' hadd ih =>
    rw [stopIssues_cons_of_not_stopsAt (by simp [stopsAt]), ih, (spelled_addItem hadd).2]
    rfl
  | case6 w sp ts frames top fs' top' hadd ih =>
    rw [stopIssues_cons_of_not_stopsAt (by simp [stopsAt]), ih, (spelled_addItem hadd).2]
    rfl

/-- The trees read from tokens are spelled by their repair. -/
theorem lexemesList_ofTokens (ts : List Token) :
    Tree.lexemesList (ofTokens ts).trees = repair ts := by
  rw [ofTokens, lexemesList_readFrom]
  simp [spelled, repair]

theorem length_openAfter (opens : List Span) (ts : List Token) :
    (openAfter opens ts).length = levelAfter opens.length (ts.map (·.lexeme)) := by
  induction ts generalizing opens with
  | nil => rfl
  | cons t ts ih => rw [openAfter_cons, ih, length_openStep, List.map_cons, levelAfter_cons]

/-- A reading reports no issue exactly when the lexemes of its tokens are balanced. -/
theorem issues_ofTokens_eq_nil_iff (ts : List Token) :
    (ofTokens ts).issues = [] ↔ Balanced 0 (ts.map (·.lexeme)) := by
  have hle := keptFrom_le_length 0 (ts.map (·.lexeme))
  rw [List.length_map] at hle
  rw [ofTokens, issues_readFrom, List.map_nil, stopIssues, List.length_nil, Balanced,
    List.length_map]
  cases hdrop : ts.drop (keptFrom 0 (ts.map (·.lexeme))) with
  | nil =>
    -- Every token is kept; the issues are the `[`s left open.
    have hk : keptFrom 0 (ts.map (·.lexeme)) = ts.length := by
      have := List.drop_eq_nil_iff.1 hdrop
      omega
    simp [hk, ← List.length_eq_zero_iff, length_openAfter]
  | cons t post =>
    -- A token is left: it is a bracket that stops the reading, and it is the one issue.
    have hk : keptFrom 0 (ts.map (·.lexeme)) < ts.length := by
      have := congrArg List.length hdrop
      simp only [List.length_drop, List.length_cons] at this
      omega
    have hstop := (keptFrom_first 0 (ts.map (·.lexeme))).2 t.lexeme (post.map (·.lexeme))
      (by rw [← List.map_drop, hdrop, List.map_cons])
    obtain ⟨l, sp⟩ := t
    -- Neither side holds: a word never stops the reading, and a bracket is one issue.
    cases l with
    | word w => simp [stopsAt] at hstop
    | openBracket | closeBracket => exact iff_of_false (by simp) fun h => Nat.ne_of_lt hk h.1

/-- Reading is repair followed by exact reading. The trees read from a token list are the one
    list of trees spelled by its repair, none deeper than `Tree.nestingLimit`. The repair keeps
    the tokens before the first that stops the reading, and the issues are read off there: the
    `]` met with no quotation open, the `[` met with `Tree.nestingLimit` open, or else every
    `[` left open at the end, innermost first (none when nothing is left open). Strict reading
    gives the trees when there is no issue, and the first issue otherwise. -/
theorem reads_repair (ts : List Token) :
    (∀ us, Tree.lexemesList us = repair ts ↔ us = (ofTokens ts).trees) ∧
    (∀ t ∈ (ofTokens ts).trees, t.depth ≤ Tree.nestingLimit) ∧
    (∀ pre l post, (ts.map (·.lexeme)).take (keptFrom 0 (ts.map (·.lexeme))) = pre ++ l :: post →
      stopsAt (levelAfter 0 pre) l = false) ∧
    (∀ t post, ts.drop (keptFrom 0 (ts.map (·.lexeme))) = t :: post →
      stopsAt (levelAfter 0 ((ts.map (·.lexeme)).take (keptFrom 0 (ts.map (·.lexeme)))))
        t.lexeme = true) ∧
    (ofTokens ts).issues =
      (match ts.drop (keptFrom 0 (ts.map (·.lexeme))) with
        | ⟨.closeBracket, sp⟩ :: _ => [.strayClose sp]
        | ⟨.openBracket, sp⟩ :: _ => [.tooDeep sp]
        | _ => (openAfter [] ts).map .unclosedOpen) ∧
    ((ofTokens ts).strict = .ok (ofTokens ts).trees ↔ (ofTokens ts).issues = []) ∧
    (∀ i rest, (ofTokens ts).issues = i :: rest → (ofTokens ts).strict = .error i) := by
  obtain ⟨hkept, hnext⟩ := keptFrom_first 0 (ts.map (·.lexeme))
  refine ⟨fun us => ⟨fun h => Tree.lexemesList_inj (h.trans (lexemesList_ofTokens ts).symm),
    fun h => h ▸ lexemesList_ofTokens ts⟩,
    Tree.depthList_le_iff.1 (ofTokens_within ts), hkept, fun t post h => ?_,
    issues_readFrom ts [] [], ?_, fun i rest h => by simp [strict, h]⟩
  · -- The token left first has the lexeme left first.
    apply hnext
    rw [← List.map_drop, h, List.map_cons]
  · unfold strict
    split <;> simp_all

end Reading

end Concat
