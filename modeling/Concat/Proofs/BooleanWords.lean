import Concat.Proofs.StackWords

/-!
# The standard boolean words

The standard words take the symbols `true` and `false` as booleans, and leave them unbound, so
that each pushes itself. Any other value is a condition that does not hold.

* `=` pushes `true` and `false` above the two values it compares and lets `eq` choose;
* `not` compares its value with `true` in the same way, choosing the other boolean;
* `if` stashes both branches under scratch names, pushes `true` and the two branches, lets `eq`
  choose a branch by comparing the condition with `true`, and runs it with `i`;
* `and` and `or` are `if`s whose branches drop the other value and push a boolean, or do
  nothing.

The laws hold from every dictionary that binds the standard words as loading binds them and
leaves `true` and `false` unbound, on every stack and before every program that does not start
with `let` (`Prelude.boolean_words_effects`).
-/

namespace Concat

namespace Tree

/-- The symbol that stands for a boolean. -/
def ofBool (p : Bool) : Tree := .symbol (if p then "true" else "false")

/-- On booleans, the choice `and` makes is conjunction. -/
theorem ite_ofBool_and (p q : Bool) :
    (if ofBool q = .symbol "true" then ofBool p else .symbol "false") = ofBool (p && q) := by
  cases q <;> simp [ofBool]

/-- On booleans, the choice `or` makes is disjunction. -/
theorem ite_ofBool_or (p q : Bool) :
    (if ofBool q = .symbol "true" then .symbol "true" else ofBool p) = ofBool (p || q) := by
  cases q <;> simp [ofBool]

end Tree

namespace Prelude

open State

/-- The dictionary binds the words that the boolean words are made of as the standard words do,
    and binds neither `true` nor `false`. -/
structure BooleanWords (d : Dictionary) : Prop extends StackWords d where
  choose : d.get? "if" = some (.quotation [.symbol "quote", .symbol "_if_else", .symbol "let",
    .symbol "quote", .symbol "_if_then", .symbol "let", .symbol "true", .symbol "_if_then",
    .symbol "_if_else", .symbol "eq", .symbol "i"])
  noTrue : d.get? "true" = none
  noFalse : d.get? "false" = none

namespace BooleanWords

variable {d d' : Dictionary}

/-- The boolean words are bound alike in a dictionary that differs only at scratch names. -/
theorem of_sameOutside (h : BooleanWords d) (hsame : d.SameOutside scratch d') : BooleanWords d' :=
  { h.toStackWords.of_sameOutside hsame with
    choose := (hsame "if" (by decide +kernel)).trans h.choose
    noTrue := (hsame "true" (by decide +kernel)).trans h.noTrue
    noFalse := (hsame "false" (by decide +kernel)).trans h.noFalse }

end BooleanWords

namespace Leads

variable {d : Dictionary} {st st₁ st₂ : Stack} {p p₁ p₂ : List Tree}

theorem refl (d : Dictionary) (st : Stack) (p : List Tree) : Leads d st p st p :=
  ⟨d, .refl d, .refl _⟩

/-- Steps that keep the dictionary, then a passage. -/
theorem of_reaches (h : (start d st p).Reaches (start d st₁ p₁))
    (h' : Leads d st₁ p₁ st₂ p₂) : Leads d st p st₂ p₂ := by
  obtain ⟨d', hd, hr⟩ := h'
  exact ⟨d', hd, h.trans hr⟩

/-- A passage, then one from every dictionary that differs from `d` only at scratch names. -/
theorem trans (h : Leads d st p st₁ p₁)
    (h' : ∀ d₁, d.SameOutside scratch d₁ → Leads d₁ st₁ p₁ st₂ p₂) :
    Leads d st p st₂ p₂ := by
  obtain ⟨d₁, hd₁, hr₁⟩ := h
  obtain ⟨d₂, hd₂, hr₂⟩ := h' d₁ hd₁
  exact ⟨d₂, hd₁.trans hd₂, hr₁.trans hr₂⟩

end Leads

section Words

variable {d : Dictionary} {st : Stack} {P : List Tree}

/-- `=` pushes `true` and `false`, and `eq` keeps `true` exactly when the two values below are
    equal. The dictionary does not change. -/
theorem reaches_equal (h : BooleanWords d)
    (hequal : d.get? "=" = some (.quotation [.symbol "true", .symbol "false", .symbol "eq"]))
    (hP : P.head? ≠ some (.symbol "let")) (x y : Tree) :
    (start d ((st.push x).push y) (.symbol "=" :: P)).Reaches
      (start d (st.push (if x = y then .symbol "true" else .symbol "false")) P) :=
  .head (step_expand d _ P (by decide) hP hequal)
    (.head (step_unbound d _ _ (by decide) (by simp) h.noTrue)
      (.head (step_unbound d _ _ (by decide) (by simp) h.noFalse)
        (.single (step_eq d st P x y _ _))))

/-- `not` pushes `true`, `false` and `true`, and `eq` keeps `false` exactly when the value below
    is `true`. The dictionary does not change. -/
theorem reaches_not (h : BooleanWords d)
    (hnot : d.get? "not" = some (.quotation [.symbol "true", .symbol "false", .symbol "true",
      .symbol "eq"]))
    (hP : P.head? ≠ some (.symbol "let")) (b : Tree) :
    (start d (st.push b) (.symbol "not" :: P)).Reaches
      (start d (st.push (if b = .symbol "true" then .symbol "false" else .symbol "true")) P) :=
  .head (step_expand d _ P (by decide) hP hnot)
    (.head (step_unbound d _ _ (by decide) (by simp) h.noTrue)
      (.head (step_unbound d _ _ (by decide) (by simp) h.noFalse)
        (.head (step_unbound d _ _ (by decide) (by simp) h.noTrue)
          (.single (step_eq d st P b _ _ _)))))

/-- `if` runs its `then` branch when the condition is `true`, and its `else` branch otherwise.
    Each branch is stashed, quoted, under a scratch name, so it must be quoted once more within
    the limit. -/
theorem leads_if (h : BooleanWords d) (hP : P.head? ≠ some (.symbol "let")) (b : Tree)
    {T E : List Tree} (hT : (Tree.quotation T).depth < Tree.nestingLimit)
    (hE : (Tree.quotation E).depth < Tree.nestingLimit) :
    Leads d (((st.push b).push (.quotation T)).push (.quotation E)) (.symbol "if" :: P) st
      ((if b = .symbol "true" then T else E) ++ P) := by
  have helse : scratch "_if_else" = true := by decide +kernel
  have hthen : scratch "_if_then" = true := by decide +kernel
  let d₁ := d.define "_if_else" (.quotation [.quotation E])
  let d₂ := d₁.define "_if_then" (.quotation [.quotation T])
  have h₂ : BooleanWords d₂ :=
    h.of_sameOutside ((Dictionary.SameOutside.define d helse _).trans (.define d₁ hthen _))
  -- The `else` branch is still stashed once the `then` branch is.
  have hgetE : d₂.get? "_if_else" = some (.quotation [.quotation E]) :=
    Dictionary.get?_define_define d _ _ (by decide)
  -- `eq` chooses the branch to run: a quotation either way.
  have hchoice : (if b = .symbol "true" then Tree.quotation T else .quotation E) =
      .quotation (if b = .symbol "true" then T else E) := by
    split <;> rfl
  refine ⟨d₂.define "_i" (.quotation (if b = .symbol "true" then T else E)),
    (Dictionary.SameOutside.define d helse _).trans
      ((Dictionary.SameOutside.define d₁ hthen _).trans (.define d₂ (by decide +kernel) _)),
    .head (step_expand d _ P (by decide) hP h.choose) ?_⟩
  refine (reaches_quote_bind h.toStackWords helse hE _).trans
    ((reaches_quote_bind (h.toStackWords.define helse _) hthen hT _).trans ?_)
  refine .head (step_unbound d₂ _ _ (by decide) (by simp) h₂.noTrue)
    (.head (step_expand d₂ _ _ (by decide) (by simp) (Dictionary.get?_define_self d₁ _ _))
      (.head (step_quotation d₂ _ _ T)
        (.head (step_expand d₂ _ _ (by decide) (by simp) hgetE)
          (.head (step_quotation d₂ _ _ E) (.head (step_eq d₂ st _ b _ _ _) ?_)))))
  rw [hchoice]
  exact reaches_i h₂.toStackWords hP _

/-- `drop` and then a boolean put the boolean in place of the top value: the branch of `and`
    and `or` that does not keep it. -/
theorem leads_drop_ofBool (h : BooleanWords d) (hP : P.head? ≠ some (.symbol "let")) (p : Bool)
    (a : Tree) :
    Leads d (st.push a) (.symbol "drop" :: .ofBool p :: P) (st.push (.ofBool p)) P := by
  have hdrop : scratch "_drop" = true := by decide +kernel
  -- `drop` binds `_drop` only, so the boolean stays unbound.
  have hunbound : (d.define "_drop" a).get? (if p then "true" else "false") = none := by
    rw [Dictionary.get?_define_of_ne _ _ (by cases p <;> decide)]
    cases p
    · exact h.noFalse
    · exact h.noTrue
  have hhead : (Tree.ofBool p :: P).head? ≠ some (.symbol "let") := by
    cases p <;> simp [Tree.ofBool]
  exact ⟨_, .define d hdrop a, (reaches_drop h.toStackWords hhead a).trans
    (.single (step_unbound _ st P (by cases p <;> decide) hP hunbound))⟩

/-- `and` keeps the value below when the top one is `true`, and leaves `false` otherwise. -/
theorem leads_and (h : BooleanWords d)
    (hand : d.get? "and" = some (.quotation [.quotation [],
      .quotation [.symbol "drop", .symbol "false"], .symbol "if"]))
    (hP : P.head? ≠ some (.symbol "let")) (a b : Tree) :
    Leads d ((st.push a).push b) (.symbol "and" :: P)
      (st.push (if b = .symbol "true" then a else .symbol "false")) P := by
  refine .of_reaches (.head (step_expand d _ P (by decide) hP hand)
    (.head (step_quotation d _ _ _) (.single (step_quotation d _ _ _))))
    ((leads_if h hP b (by decide) (by decide)).trans fun d₁ hd₁ => ?_)
  have h₁ := h.of_sameOutside hd₁
  by_cases hb : b = .symbol "true"
  · rw [if_pos hb, if_pos hb]
    exact .refl d₁ _ P
  · rw [if_neg hb, if_neg hb]
    exact leads_drop_ofBool h₁ hP false a

/-- `or` leaves `true` when the top value is `true`, and keeps the value below otherwise. -/
theorem leads_or (h : BooleanWords d)
    (hor : d.get? "or" = some (.quotation [.quotation [.symbol "drop", .symbol "true"],
      .quotation [], .symbol "if"]))
    (hP : P.head? ≠ some (.symbol "let")) (a b : Tree) :
    Leads d ((st.push a).push b) (.symbol "or" :: P)
      (st.push (if b = .symbol "true" then .symbol "true" else a)) P := by
  refine .of_reaches (.head (step_expand d _ P (by decide) hP hor)
    (.head (step_quotation d _ _ _) (.single (step_quotation d _ _ _))))
    ((leads_if h hP b (by decide) (by decide)).trans fun d₁ hd₁ => ?_)
  have h₁ := h.of_sameOutside hd₁
  by_cases hb : b = .symbol "true"
  · rw [if_pos hb, if_pos hb]
    exact leads_drop_ofBool h₁ hP true a
  · rw [if_neg hb, if_neg hb]
    exact .refl d₁ _ P

end Words

/-- What the boolean words do, from the dictionary `d` and before the program `P`. Each stack is
    built with `Stack.push`, so the value pushed last is on top. `=` leaves `true` when the top
    two values are equal trees and `false` otherwise; `not` leaves `false` on `true` and `true`
    on anything else; `if` runs its `then` branch on the condition `true` and its `else` branch
    otherwise; `and` keeps the value below on `true` and leaves `false` otherwise; `or` leaves
    `true` on `true` and keeps the value below otherwise. On the booleans, `and` and `or` are
    conjunction and disjunction. The dictionary changes only at scratch names. -/
def BooleanEffects (d : Dictionary) (P : List Tree) : Prop :=
  (∀ (st : Stack) (x y : Tree), Leads d ((st.push x).push y) (.symbol "=" :: P)
    (st.push (if x = y then .symbol "true" else .symbol "false")) P) ∧
  (∀ (st : Stack) (b : Tree), Leads d (st.push b) (.symbol "not" :: P)
    (st.push (if b = .symbol "true" then .symbol "false" else .symbol "true")) P) ∧
  (∀ (st : Stack) (b : Tree) (T E : List Tree), (Tree.quotation T).depth ≤ 1023 →
    (Tree.quotation E).depth ≤ 1023 →
    Leads d (((st.push b).push (.quotation T)).push (.quotation E)) (.symbol "if" :: P) st
      ((if b = .symbol "true" then T else E) ++ P)) ∧
  (∀ (st : Stack) (a b : Tree), Leads d ((st.push a).push b) (.symbol "and" :: P)
    (st.push (if b = .symbol "true" then a else .symbol "false")) P) ∧
  (∀ (st : Stack) (a b : Tree), Leads d ((st.push a).push b) (.symbol "or" :: P)
    (st.push (if b = .symbol "true" then .symbol "true" else a)) P) ∧
  (∀ (st : Stack) (p q : Bool), Leads d ((st.push (.ofBool p)).push (.ofBool q))
    (.symbol "and" :: P) (st.push (.ofBool (p && q))) P) ∧
  (∀ (st : Stack) (p q : Bool), Leads d ((st.push (.ofBool p)).push (.ofBool q))
    (.symbol "or" :: P) (st.push (.ofBool (p || q))) P)

/-- The boolean words have their documented effects, from every dictionary that binds the
    standard words as a session with them does and leaves `true` and `false` unbound, on every
    stack, and before every program that does not start with `let`. -/
theorem boolean_words_effects {D : Dictionary}
    (hD : ∀ w ∈ Session.withPrelude.dictionary.names,
      D.get? w = Session.withPrelude.dictionary.get? w)
    (htrue : D.get? "true" = none) (hfalse : D.get? "false" = none)
    {P : List Tree} (hP : P.head? ≠ some (.symbol "let")) : BooleanEffects D P := by
  -- The standard words are bound as loading them binds them.
  have hget : ∀ w ∈ (Dictionary.mk bindings).names, D.get? w = (Dictionary.mk bindings).get? w := by
    rw [← withPrelude_dictionary]
    exact hD
  have h : BooleanWords D :=
    { i := hget "i" (by decide)
      drop := hget "drop" (by decide)
      quote := hget "quote" (by decide)
      unquote := hget "unquote" (by decide)
      choose := hget "if" (by decide)
      noTrue := htrue
      noFalse := hfalse }
  have hlimit : Tree.nestingLimit = 1024 := rfl
  have hand := hget "and" (by decide)
  have hor := hget "or" (by decide)
  refine ⟨fun st x y => ⟨D, .refl D, reaches_equal h (hget "=" (by decide)) hP x y⟩,
    fun st b => ⟨D, .refl D, reaches_not h (hget "not" (by decide)) hP b⟩,
    fun st b T E hT hE => leads_if h hP b (by omega) (by omega),
    fun st a b => leads_and h hand hP a b, fun st a b => leads_or h hor hP a b,
    fun st p q => ?_, fun st p q => ?_⟩
  · rw [← Tree.ite_ofBool_and]
    exact leads_and h hand hP _ _
  · rw [← Tree.ite_ofBool_or]
    exact leads_or h hor hP _ _

/-- The boolean words of a session with the standard words, before a `not`. -/
theorem boolean_words_effects_with_prelude :
    (∀ w ∈ Session.withPrelude.dictionary.names,
      Session.withPrelude.dictionary.get? w = Session.withPrelude.dictionary.get? w) ∧
    Session.withPrelude.dictionary.get? "true" = none ∧
    Session.withPrelude.dictionary.get? "false" = none ∧
    [Tree.symbol "not"].head? ≠ some (.symbol "let") ∧
    BooleanEffects Session.withPrelude.dictionary [.symbol "not"] := by
  have htrue : Session.withPrelude.dictionary.get? "true" = none := by
    rw [withPrelude_dictionary]
    rfl
  have hfalse : Session.withPrelude.dictionary.get? "false" = none := by
    rw [withPrelude_dictionary]
    rfl
  exact ⟨fun _ _ => rfl, htrue, hfalse, by decide,
    boolean_words_effects (fun _ _ => rfl) htrue hfalse (by decide)⟩

end Prelude

end Concat
