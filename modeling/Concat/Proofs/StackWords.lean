import Concat.Proofs.Reaching
import Concat.Session

/-!
# The standard stack words

Loading the standard words (`Prelude.loaded`) binds eleven words, each to a quotation of
primitives, scratch bindings and other standard words (`Prelude.bindings`). The words that move
values on the stack do what their names say, from every stack and before every program that
does not start with `let` (a `let` there would take the word itself as a name to bind):

* `drop` takes the top value off, by binding it to the scratch name `_drop`;
* `quote` wraps the top value in a quotation, by a `cons` onto the empty quotation;
* `unquote` takes the first item out of the quotation on top, by a `snoc` and a `drop`;
* `i` runs the quotation on top, by binding it to `_i` and expanding `_i`;
* `dup` and `swap` stash each value they move as a quotation within a quotation, under a
  scratch name, and fetch it back by expanding the name and unquoting.

Each word takes many steps, which are composed from `State.Reaches` of the words it is made
of. A `cons` is refused on a value `Tree.nestingLimit` deep, so `quote` fails on such a value,
and `dup` and `swap`, which quote twice, fail one level earlier (`Prelude.stack_words_effects`).
Along the way, only scratch names (`Prelude.scratch`) are bound.
-/

namespace Concat

namespace Prelude

open State

/-- The bindings that loading the standard words leaves, sorted by name. -/
def bindings : List (String × Tree) :=
  [("=", .quotation [.symbol "true", .symbol "false", .symbol "eq"]),
   ("and", .quotation [.quotation [], .quotation [.symbol "drop", .symbol "false"], .symbol "if"]),
   ("drop", .quotation [.symbol "_drop", .symbol "let"]),
   ("dup", .quotation [.symbol "quote", .symbol "quote", .symbol "_dup", .symbol "let",
      .symbol "_dup", .symbol "unquote", .symbol "_dup", .symbol "unquote"]),
   ("i", .quotation [.symbol "_i", .symbol "let", .symbol "_i"]),
   ("if", .quotation [.symbol "quote", .symbol "_if_else", .symbol "let", .symbol "quote",
      .symbol "_if_then", .symbol "let", .symbol "true", .symbol "_if_then", .symbol "_if_else",
      .symbol "eq", .symbol "i"]),
   ("not", .quotation [.symbol "true", .symbol "false", .symbol "true", .symbol "eq"]),
   ("or", .quotation [.quotation [.symbol "drop", .symbol "true"], .quotation [], .symbol "if"]),
   ("quote", .quotation [.quotation [], .symbol "cons"]),
   ("swap", .quotation [.symbol "quote", .symbol "quote", .symbol "_swap_y", .symbol "let",
      .symbol "quote", .symbol "quote", .symbol "_swap_x", .symbol "let", .symbol "_swap_y",
      .symbol "unquote", .symbol "_swap_x", .symbol "unquote"]),
   ("unquote", .quotation [.symbol "snoc", .symbol "drop"])]

/-- Loading the standard words binds exactly `bindings`, and leaves the stack and the program
    empty. The kernel runs the loading here, once; every other fact about the loaded words is
    drawn from this equation. -/
theorem loaded_eq : loaded = ⟨⟨bindings⟩, ⟨[]⟩, ⟨[]⟩⟩ := by decide +kernel

/-- The dictionary of a state known by its fields. Stated over a variable state, so that the
    kernel, checking it for `loaded`, does not run the loading again. -/
theorem dictionary_of_eq {s : State} {d : Dictionary} {st : Stack} {p : Program}
    (h : s = ⟨d, st, p⟩) : s.dictionary = d := by
  subst h
  rfl

/-- A session that holds the standard words binds exactly `bindings`. -/
theorem withPrelude_dictionary : Session.withPrelude.dictionary = ⟨bindings⟩ := by
  have h : Session.withPrelude = ⟨loaded.dictionary, loaded.stack, false, none⟩ := rfl
  have hd : ∀ {ss : Session} {d st b l}, ss = ⟨d, st, b, l⟩ → ss.dictionary = d := by
    intro ss d st b l h
    subst h
    rfl
  exact (hd h).trans (dictionary_of_eq loaded_eq)

/-- Scratch names start with `_`: the standard words bind them for their own use. -/
def scratch (n : String) : Bool := n.startsWith "_"

/-- From the dictionary `d` and the stack `st`, on the program `p`, the machine passes through
    the stack `st'` and the program `p'`, with a dictionary that differs from `d` only at scratch
    names. -/
def Leads (d : Dictionary) (st : Stack) (p : List Tree) (st' : Stack) (p' : List Tree) : Prop :=
  ∃ d', d.SameOutside scratch d' ∧ (start d st p).Reaches (start d' st' p')

/-- The dictionary binds the words `i`, `drop`, `quote` and `unquote` as the standard words do:
    these are the words that the stack words are made of. -/
structure StackWords (d : Dictionary) : Prop where
  i : d.get? "i" = some (.quotation [.symbol "_i", .symbol "let", .symbol "_i"])
  drop : d.get? "drop" = some (.quotation [.symbol "_drop", .symbol "let"])
  quote : d.get? "quote" = some (.quotation [.quotation [], .symbol "cons"])
  unquote : d.get? "unquote" = some (.quotation [.symbol "snoc", .symbol "drop"])

/-- A scratch name is no primitive. -/
theorem not_primitive_of_scratch {n : String} (hn : scratch n = true) :
    n ≠ "cons" ∧ n ≠ "snoc" ∧ n ≠ "eq" := by
  refine ⟨?_, ?_, ?_⟩ <;> rintro rfl <;> simp [scratch] at hn

/-- A scratch name is not `let`. -/
theorem ne_let_of_scratch {n : String} (hn : scratch n = true) : n ≠ "let" := by
  rintro rfl
  simp [scratch] at hn

namespace StackWords

variable {d d' : Dictionary}

/-- The stack words are bound alike in a dictionary that differs only at scratch names. -/
theorem of_sameOutside (h : StackWords d) (hsame : d.SameOutside scratch d') : StackWords d' where
  i := (hsame "i" (by decide +kernel)).trans h.i
  drop := (hsame "drop" (by decide +kernel)).trans h.drop
  quote := (hsame "quote" (by decide +kernel)).trans h.quote
  unquote := (hsame "unquote" (by decide +kernel)).trans h.unquote

theorem define (h : StackWords d) {n : String} (hn : scratch n = true) (v : Tree) :
    StackWords (d.define n v) :=
  h.of_sameOutside (.define d hn v)

end StackWords

/-! ## The words one at a time -/

section Words

variable {d : Dictionary} {st : Stack} {P : List Tree}

/-- `drop` binds the top value to `_drop`, and so takes it off the stack. -/
theorem reaches_drop (h : StackWords d) (hP : P.head? ≠ some (.symbol "let")) (v : Tree) :
    (start d (st.push v) (.symbol "drop" :: P)).Reaches (start (d.define "_drop" v) st P) :=
  .head (step_expand d _ P (by decide) hP h.drop) (.single (step_bind d st P (by decide) v))

/-- `quote` wraps a value in a quotation, by a `cons` onto the empty one. -/
theorem reaches_quote (h : StackWords d) (hP : P.head? ≠ some (.symbol "let")) {v : Tree}
    (hv : v.depth < Tree.nestingLimit) :
    (start d (st.push v) (.symbol "quote" :: P)).Reaches (start d (st.push (.quotation [v])) P) :=
  .head (step_expand d _ P (by decide) hP h.quote)
    (.head (step_quotation d _ _ []) (.single (step_cons d st P [] hv)))

/-- `quote` fails on a value `Tree.nestingLimit` deep: its `cons` is refused. -/
theorem fails_quote (h : StackWords d) (hP : P.head? ≠ some (.symbol "let")) {v : Tree}
    (hv : Tree.nestingLimit ≤ v.depth) : (start d (st.push v) (.symbol "quote" :: P)).Fails :=
  ⟨_, .head (step_expand d _ P (by decide) hP h.quote) (.single (step_quotation d _ _ [])),
    step_cons_refused d st P [] hv⟩

/-- `unquote` takes the first item out of the quotation on top, and drops what is left of it. -/
theorem reaches_unquote (h : StackWords d) (hP : P.head? ≠ some (.symbol "let")) (v : Tree)
    (q : List Tree) :
    (start d (st.push (.quotation (v :: q))) (.symbol "unquote" :: P)).Reaches
      (start (d.define "_drop" (.quotation q)) (st.push v) P) :=
  .head (step_expand d _ P (by decide) hP h.unquote)
    (.head (step_snoc d st _ v q) (reaches_drop h hP _))

/-- `i` binds the quotation on top to `_i`, then expands `_i` into its items. -/
theorem reaches_i (h : StackWords d) (hP : P.head? ≠ some (.symbol "let")) (p : List Tree) :
    (start d (st.push (.quotation p)) (.symbol "i" :: P)).Reaches
      (start (d.define "_i" (.quotation p)) st (p ++ P)) :=
  .head (step_expand d _ P (by decide) hP h.i)
    (.head (step_bind d st _ (by decide) _)
      (.single (step_expand _ st P (by decide) hP (Dictionary.get?_define_self d _ _))))

/-- `quote n let` stashes the top value, quoted, under the scratch name `n`. -/
theorem reaches_quote_bind (h : StackWords d) {n : String} (hn : scratch n = true) {v : Tree}
    (hv : v.depth < Tree.nestingLimit) (rest : List Tree) :
    (start d (st.push v) (.symbol "quote" :: .symbol n :: .symbol "let" :: rest)).Reaches
      (start (d.define n (.quotation [v])) st rest) :=
  (reaches_quote h (by simpa using ne_let_of_scratch hn) hv).trans
    (.single (step_bind d st rest (not_primitive_of_scratch hn) _))

/-- `quote quote n let` stashes the top value, quoted twice, under the scratch name `n`. -/
theorem reaches_stash (h : StackWords d) {n : String} (hn : scratch n = true) {v : Tree}
    (hv : v.depth + 2 ≤ Tree.nestingLimit) (rest : List Tree) :
    (start d (st.push v) (.symbol "quote" :: .symbol "quote" :: .symbol n :: .symbol "let" ::
      rest)).Reaches (start (d.define n (.quotation [.quotation [v]])) st rest) :=
  (reaches_quote h (by simp) (by omega)).trans
    (reaches_quote_bind h hn (by simp; omega) rest)

/-- `quote quote n let` fails on a value one level less than `Tree.nestingLimit` deep. -/
theorem fails_stash (h : StackWords d) {n : String} (hn : scratch n = true) {v : Tree}
    (hv : Tree.nestingLimit ≤ v.depth + 1) (rest : List Tree) :
    (start d (st.push v) (.symbol "quote" :: .symbol "quote" :: .symbol n :: .symbol "let" ::
      rest)).Fails := by
  by_cases hdeep : Tree.nestingLimit ≤ v.depth
  · exact fails_quote h (by simp) hdeep
  · -- The first `quote` goes through, and the second is refused.
    exact (reaches_quote h (by simp) (by omega)).fails
      (fails_quote h (by simpa using ne_let_of_scratch hn) (by simpa using hv))

/-- `n unquote`, with `n` bound to a value quoted twice, fetches the value back. -/
theorem reaches_fetch (h : StackWords d) {n : String} (hn : scratch n = true) {v : Tree}
    (hd : d.get? n = some (.quotation [.quotation [v]])) {rest : List Tree}
    (hrest : rest.head? ≠ some (.symbol "let")) :
    (start d st (.symbol n :: .symbol "unquote" :: rest)).Reaches
      (start (d.define "_drop" (.quotation [])) (st.push v) rest) :=
  .head (step_expand d st _ (not_primitive_of_scratch hn) (by simp) hd)
    (.head (step_quotation d st _ [v]) (reaches_unquote h hrest v []))

/-- `dup` stashes the top value under `_dup`, and fetches it back twice. -/
theorem reaches_dup (h : StackWords d)
    (hdup : d.get? "dup" = some (.quotation [.symbol "quote", .symbol "quote", .symbol "_dup",
      .symbol "let", .symbol "_dup", .symbol "unquote", .symbol "_dup", .symbol "unquote"]))
    (hP : P.head? ≠ some (.symbol "let")) {v : Tree} (hv : v.depth + 2 ≤ Tree.nestingLimit) :
    Leads d (st.push v) (.symbol "dup" :: P) ((st.push v).push v) P := by
  have hdup₁ : scratch "_dup" = true := by decide +kernel
  have hdrop : scratch "_drop" = true := by decide +kernel
  let d₁ := d.define "_dup" (.quotation [.quotation [v]])
  let d₂ := d₁.define "_drop" (.quotation [])
  refine ⟨d₂.define "_drop" (.quotation []),
    ((Dictionary.SameOutside.define d hdup₁ _).trans (.define d₁ hdrop _)).trans (.define d₂ hdrop _),
    .head (step_expand d _ P (by decide) hP hdup) ?_⟩
  refine (reaches_stash h hdup₁ hv _).trans ((reaches_fetch (h.define hdup₁ _) hdup₁
    (Dictionary.get?_define_self d _ _) (by simp)).trans ?_)
  -- The stash survives the first fetch, which binds only `_drop`.
  exact reaches_fetch ((h.define hdup₁ _).define hdrop _) hdup₁
    (Dictionary.get?_define_define d _ _ (by decide)) hP

/-- `dup` fails on a value one level less than `Tree.nestingLimit` deep. -/
theorem fails_dup (h : StackWords d)
    (hdup : d.get? "dup" = some (.quotation [.symbol "quote", .symbol "quote", .symbol "_dup",
      .symbol "let", .symbol "_dup", .symbol "unquote", .symbol "_dup", .symbol "unquote"]))
    (hP : P.head? ≠ some (.symbol "let")) {v : Tree} (hv : Tree.nestingLimit ≤ v.depth + 1) :
    (start d (st.push v) (.symbol "dup" :: P)).Fails :=
  (Reaches.single (step_expand d _ P (by decide) hP hdup)).fails
    (fails_stash h (by decide +kernel) hv _)

/-- `swap` stashes the top value under `_swap_y` and the one below under `_swap_x`, and fetches
    back first the one and then the other. -/
theorem reaches_swap (h : StackWords d)
    (hswap : d.get? "swap" = some (.quotation [.symbol "quote", .symbol "quote",
      .symbol "_swap_y", .symbol "let", .symbol "quote", .symbol "quote", .symbol "_swap_x",
      .symbol "let", .symbol "_swap_y", .symbol "unquote", .symbol "_swap_x", .symbol "unquote"]))
    (hP : P.head? ≠ some (.symbol "let")) {x y : Tree} (hx : x.depth + 2 ≤ Tree.nestingLimit)
    (hy : y.depth + 2 ≤ Tree.nestingLimit) :
    Leads d ((st.push x).push y) (.symbol "swap" :: P) ((st.push y).push x) P := by
  have hsy : scratch "_swap_y" = true := by decide +kernel
  have hsx : scratch "_swap_x" = true := by decide +kernel
  have hdrop : scratch "_drop" = true := by decide +kernel
  let d₁ := d.define "_swap_y" (.quotation [.quotation [y]])
  let d₂ := d₁.define "_swap_x" (.quotation [.quotation [x]])
  let d₃ := d₂.define "_drop" (.quotation [])
  have h₂ : StackWords d₂ := (h.define hsy _).define hsx _
  -- Each stash survives the binding made after it.
  have hgety : d₂.get? "_swap_y" = some (.quotation [.quotation [y]]) :=
    Dictionary.get?_define_define d _ _ (by decide)
  have hgetx : d₃.get? "_swap_x" = some (.quotation [.quotation [x]]) :=
    Dictionary.get?_define_define d₁ _ _ (by decide)
  refine ⟨d₃.define "_drop" (.quotation []),
    (((Dictionary.SameOutside.define d hsy _).trans (.define d₁ hsx _)).trans
      (.define d₂ hdrop _)).trans (.define d₃ hdrop _),
    .head (step_expand d _ P (by decide) hP hswap) ?_⟩
  refine (reaches_stash h hsy hy _).trans ((reaches_stash (h.define hsy _) hsx hx _).trans ?_)
  exact (reaches_fetch h₂ hsy hgety (by simp)).trans (reaches_fetch (h₂.define hdrop _) hsx hgetx hP)

/-- `swap` fails when either value is one level less than `Tree.nestingLimit` deep: the top one
    is stashed first. -/
theorem fails_swap (h : StackWords d)
    (hswap : d.get? "swap" = some (.quotation [.symbol "quote", .symbol "quote",
      .symbol "_swap_y", .symbol "let", .symbol "quote", .symbol "quote", .symbol "_swap_x",
      .symbol "let", .symbol "_swap_y", .symbol "unquote", .symbol "_swap_x", .symbol "unquote"]))
    (hP : P.head? ≠ some (.symbol "let")) {x y : Tree}
    (hxy : Tree.nestingLimit ≤ x.depth + 1 ∨ Tree.nestingLimit ≤ y.depth + 1) :
    (start d ((st.push x).push y) (.symbol "swap" :: P)).Fails := by
  have hsy : scratch "_swap_y" = true := by decide +kernel
  have hexpand := Reaches.single (step_expand d ((st.push x).push y) P (by decide) hP hswap)
  by_cases hy : Tree.nestingLimit ≤ y.depth + 1
  · exact hexpand.fails (fails_stash h hsy hy _)
  · exact (hexpand.trans (reaches_stash h hsy (by omega) _)).fails
      (fails_stash (h.define hsy _) (by decide +kernel) (hxy.resolve_right hy) _)

end Words

/-- What the stack words do, from the dictionary `d` and before the program `P`. Each stack is
    built with `Stack.push`, so the value pushed last is on top. `drop` takes the top value off;
    `quote` wraps it in a quotation; `unquote` takes the first item out of the quotation on top;
    `i` runs the quotation on top; `dup` copies the top value and `swap` exchanges the top two,
    each leaving the program `P` next, with the dictionary changed only at scratch names. `quote`
    fails on a value deeper than 1023, and `dup` and `swap` on one deeper than 1022. -/
def StackEffects (d : Dictionary) (P : List Tree) : Prop :=
  (∀ (st : Stack) (v : Tree), Leads d (st.push v) (.symbol "drop" :: P) st P) ∧
  (∀ (st : Stack) (v : Tree), v.depth ≤ 1023 →
    Leads d (st.push v) (.symbol "quote" :: P) (st.push (.quotation [v])) P) ∧
  (∀ (st : Stack) (v : Tree) (q : List Tree),
    Leads d (st.push (.quotation (v :: q))) (.symbol "unquote" :: P) (st.push v) P) ∧
  (∀ (st : Stack) (p : List Tree), Leads d (st.push (.quotation p)) (.symbol "i" :: P) st (p ++ P)) ∧
  (∀ (st : Stack) (v : Tree), v.depth ≤ 1022 →
    Leads d (st.push v) (.symbol "dup" :: P) ((st.push v).push v) P) ∧
  (∀ (st : Stack) (x y : Tree), x.depth ≤ 1022 → y.depth ≤ 1022 →
    Leads d ((st.push x).push y) (.symbol "swap" :: P) ((st.push y).push x) P) ∧
  (∀ (st : Stack) (v : Tree), 1023 < v.depth → (start d (st.push v) (.symbol "quote" :: P)).Fails) ∧
  (∀ (st : Stack) (v : Tree), 1022 < v.depth → (start d (st.push v) (.symbol "dup" :: P)).Fails) ∧
  (∀ (st : Stack) (x y : Tree), 1022 < x.depth ∨ 1022 < y.depth →
    (start d ((st.push x).push y) (.symbol "swap" :: P)).Fails)

/-- The stack words have their documented effects, from every dictionary that binds them as a
    session with the standard words does, on every stack, and before every program that does
    not start with `let`. -/
theorem stack_words_effects {D : Dictionary}
    (hD : ∀ w ∈ ["i", "drop", "quote", "unquote", "dup", "swap"],
      D.get? w = Session.withPrelude.dictionary.get? w)
    {P : List Tree} (hP : P.head? ≠ some (.symbol "let")) : StackEffects D P := by
  -- The six words are bound as loading the standard words binds them.
  have hget : ∀ w ∈ ["i", "drop", "quote", "unquote", "dup", "swap"],
      D.get? w = (Dictionary.mk bindings).get? w := fun w hw => by
    rw [hD w hw, withPrelude_dictionary]
  have h : StackWords D :=
    ⟨hget "i" (by simp), hget "drop" (by simp), hget "quote" (by simp), hget "unquote" (by simp)⟩
  have hlimit : Tree.nestingLimit = 1024 := rfl
  have hdrop : scratch "_drop" = true := by decide +kernel
  refine ⟨fun st v => ⟨_, .define D hdrop v, reaches_drop h hP v⟩,
    fun st v hv => ⟨D, .refl D, reaches_quote h hP (by omega)⟩,
    fun st v q => ⟨_, .define D hdrop _, reaches_unquote h hP v q⟩,
    fun st p => ⟨_, .define D (by decide +kernel) _, reaches_i h hP p⟩,
    fun st v hv => reaches_dup h (hget "dup" (by simp)) hP (by omega),
    fun st x y hx hy => reaches_swap h (hget "swap" (by simp)) hP (by omega) (by omega),
    fun st v hv => fails_quote h hP (by omega),
    fun st v hv => fails_dup h (hget "dup" (by simp)) hP (by omega),
    fun st x y hxy => fails_swap h (hget "swap" (by simp)) hP (by omega)⟩

/-- The stack words of a session with the standard words, before a `swap`. -/
theorem stack_words_effects_with_prelude :
    (∀ w ∈ ["i", "drop", "quote", "unquote", "dup", "swap"],
      Session.withPrelude.dictionary.get? w = Session.withPrelude.dictionary.get? w) ∧
    [Tree.symbol "swap"].head? ≠ some (.symbol "let") ∧
    StackEffects Session.withPrelude.dictionary [.symbol "swap"] :=
  ⟨fun _ _ => rfl, by decide, stack_words_effects (fun _ _ => rfl) (by decide)⟩

end Prelude

end Concat
