import Concat.Proofs.Repair
import Concat.Proofs.Scanning

/-!
# Writing and reading back

The canonical text of a list of trees reads back as the same list, with no issue, provided
that each of its symbols is a word the scanner reads back whole (`Token.isWordText`: not empty,
no blank and no bracket in it) and no tree is deeper than `Tree.nestingLimit`. Every list that
reading gives is such a list, so reading the text written from a reading gives that reading
again.

* `Token.lexemes_scanFrom_render`: the text of a tree scans to the tree's lexemes, whatever
  follows it that cannot continue a word;
* `Reading.words_ofTokens`: the words of the trees read are words of the tokens;
* `Reading.render_read_round_trip`: both directions.
-/

namespace Concat

namespace Token

mutual

/-- The text of a tree whose words read back whole scans to the tree's lexemes, when what
    follows it cannot continue a word. -/
theorem lexemes_scanFrom_render : (t : Tree) →
    (∀ w, .word w ∈ t.lexemes → isWordText w = true) → (rest : List Char) →
    (∀ c cs, rest = c :: cs → isWordChar c = false) → (pos : Nat) →
    (scanFrom pos (t.render.toList ++ rest)).map (·.lexeme) =
      t.lexemes ++ (scanFrom 0 rest).map (·.lexeme)
  | .symbol s, hw, rest, hrest, pos => by
    obtain ⟨hne, hchars⟩ := (isWordText_iff s).1 (hw s (by simp))
    rw [Tree.render_symbol, scanFrom_word hne hchars hrest, List.map_cons, String.ofList_toList,
      lexemes_scanFrom _ 0]
    rfl
  | .quotation items, hw, rest, hrest, pos => by
    -- The items stand between brackets, and the `]` cannot continue a word.
    have hitems : ∀ w, .word w ∈ Tree.lexemesList items → isWordText w = true :=
      fun w h => hw w (by simp [h])
    have hclose : ∀ c cs, ']' :: rest = c :: cs → isWordChar c = false := by
      rintro c cs ⟨rfl, -⟩
      rfl
    rw [Tree.render_quotation, String.toList_append, String.toList_append]
    rw [show "[".toList = ['['] from rfl, show "]".toList = [']'] from rfl]
    simp only [List.cons_append, List.nil_append, List.append_assoc]
    rw [scanFrom_openBracket, List.map_cons,
      lexemes_scanFrom_renderList items hitems (']' :: rest) hclose (pos + 1), scanFrom_closeBracket,
      List.map_cons, lexemes_scanFrom _ 0]
    simp

/-- The text of a list of trees whose words read back whole scans to the list's lexemes, when
    what follows it cannot continue a word. -/
theorem lexemes_scanFrom_renderList : (ts : List Tree) →
    (∀ w, .word w ∈ Tree.lexemesList ts → isWordText w = true) → (rest : List Char) →
    (∀ c cs, rest = c :: cs → isWordChar c = false) → (pos : Nat) →
    (scanFrom pos ((Tree.renderList ts).toList ++ rest)).map (·.lexeme) =
      Tree.lexemesList ts ++ (scanFrom 0 rest).map (·.lexeme)
  | [], _, rest, _, pos => by simp [lexemes_scanFrom pos 0]
  | [t], hw, rest, hrest, pos => by
    rw [Tree.renderList_singleton,
      lexemes_scanFrom_render t (fun w h => hw w (by simp [h])) rest hrest pos]
    simp
  | t :: u :: us, hw, rest, hrest, pos => by
    -- The first tree's text is followed by a space, which cannot continue a word.
    have hspace : ∀ c cs, ' ' :: ((Tree.renderList (u :: us)).toList ++ rest) = c :: cs →
        isWordChar c = false := by
      rintro c cs ⟨rfl, -⟩
      rfl
    rw [Tree.renderList_cons_cons, String.toList_append, String.toList_append,
      show " ".toList = [' '] from rfl]
    simp only [List.cons_append, List.nil_append, List.append_assoc]
    rw [lexemes_scanFrom_render t (fun w h => hw w (by simp [h])) _ hspace pos,
      scanFrom_blank (show Text.isBlank ' ' = true from rfl),
      lexemes_scanFrom_renderList (u :: us)
        (fun w h => hw w (by rw [Tree.lexemesList_cons]; exact List.mem_append_right _ h)) rest hrest]
    simp

end

/-- The canonical text of a list of trees whose words read back whole scans to its lexemes. -/
theorem lexemes_scan_renderList {ts : List Tree}
    (hw : ∀ w, .word w ∈ Tree.lexemesList ts → isWordText w = true) :
    (scan (Tree.renderList ts)).map (·.lexeme) = Tree.lexemesList ts := by
  simpa [scan] using lexemes_scanFrom_renderList ts hw [] (by simp) 0

end Token

namespace Reading

/-- Every word of the trees read from tokens is the word of one of the tokens. -/
theorem words_ofTokens {ts : List Token} {w : String}
    (h : .word w ∈ Tree.lexemesList (ofTokens ts).trees) : ∃ t ∈ ts, t.lexeme = .word w := by
  rw [lexemesList_ofTokens, repair, repairFrom, List.mem_append] at h
  rcases h with h | h
  · obtain ⟨t, ht, hw⟩ := List.mem_map.1 (List.mem_of_mem_take h)
    exact ⟨t, ht, hw⟩
  · -- The repair adds only `]`s.
    cases (List.mem_replicate.1 h).2

/-- The canonical text of a list of trees reads back as the list, with no issue, when its words
    read back whole and no tree is deeper than `Tree.nestingLimit`. -/
theorem ofText_renderList {ts : List Tree}
    (hw : ∀ w, .word w ∈ Tree.lexemesList ts → Token.isWordText w = true)
    (hd : ∀ t ∈ ts, t.depth ≤ Tree.nestingLimit) :
    (ofText (Tree.renderList ts)).trees = ts ∧ (ofText (Tree.renderList ts)).issues = [] := by
  have hlex := Token.lexemes_scan_renderList hw
  -- The lexemes of the text are balanced: the trees fit under the limit.
  have hbal : Balanced 0 ((Token.scan (Tree.renderList ts)).map (·.lexeme)) := by
    rw [hlex]
    exact balanced_lexemesList ts 0 (by simpa using Tree.depthList_le_iff.2 hd)
  refine ⟨?_, (issues_ofTokens_eq_nil_iff _).2 hbal⟩
  apply Tree.lexemesList_inj
  rw [ofText, lexemesList_ofTokens, repair, repairFrom_of_balanced hbal, hlex]

/-- Writing and reading back. The canonical text of a list of trees, whose symbols are
    not empty and hold no blank and no bracket and whose trees are at most `Tree.nestingLimit`
    deep, reads back as that list, with no issue, and strictly too. Every text reads as such a
    list: reading the text written from what a text reads as gives it again, so writing after
    reading, done twice, gives the same text as done once. -/
theorem render_read_round_trip :
    (∀ ts : List Tree, (∀ w, .word w ∈ Tree.lexemesList ts → Token.isWordText w = true) →
      (∀ t ∈ ts, t.depth ≤ Tree.nestingLimit) →
      (ofText (Tree.renderList ts)).trees = ts ∧ (ofText (Tree.renderList ts)).issues = [] ∧
        (ofText (Tree.renderList ts)).strict = .ok ts) ∧
    (∀ text : String,
      (ofText (Tree.renderList (ofText text).trees)).trees = (ofText text).trees ∧
      Tree.renderList (ofText (Tree.renderList (ofText text).trees)).trees =
        Tree.renderList (ofText text).trees) := by
  refine ⟨fun ts hw hd => ?_, fun text => ?_⟩
  · obtain ⟨htrees, hissues⟩ := ofText_renderList hw hd
    refine ⟨htrees, hissues, ?_⟩
    rw [strict, hissues, htrees]
  · -- What a text reads as has scanned words, and fits under the limit.
    have hw : ∀ w, .word w ∈ Tree.lexemesList (ofText text).trees →
        Token.isWordText w = true := by
      intro w h
      obtain ⟨t, ht, hlex⟩ := words_ofTokens h
      exact Token.isWordText_of_mem_scanFrom ht hlex
    have hd := Tree.depthList_le_iff.1 (ofTokens_within (Token.scan text))
    have htrees := (ofText_renderList hw hd).1
    exact ⟨htrees, by rw [htrees]⟩

/-- A list with a symbol, an empty quotation and a nested one reads back from its text. -/
theorem render_read_round_trip_nested :
    let ts := [Tree.symbol "a", .quotation [.symbol "b", .quotation []]]
    (∀ w, .word w ∈ Tree.lexemesList ts → Token.isWordText w = true) ∧
      (∀ t ∈ ts, t.depth ≤ Tree.nestingLimit) ∧
      (ofText (Tree.renderList ts)).trees = ts := by
  intro ts
  have hw : ∀ w, .word w ∈ Tree.lexemesList ts → Token.isWordText w = true := by
    intro w h
    simp [ts] at h
    rcases h with rfl | rfl <;> rfl
  have hd : ∀ t ∈ ts, t.depth ≤ Tree.nestingLimit := by decide
  exact ⟨hw, hd, (render_read_round_trip.1 ts hw hd).1⟩

end Reading

end Concat
