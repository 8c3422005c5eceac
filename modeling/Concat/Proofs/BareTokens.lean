import Concat.Proofs.Repair
import Concat.Proofs.Segmentation

/-!
# Reading the texts of tokens

The texts of the tokens of a text (`Token.strings`) can be read again as bare strings
(`Reading.ofStrings`): a bracket's text is a bracket again, and a word's text is a word again,
since a word the scanner gives is never the text of a bracket. Reading them gives the trees of
the text itself, and the issues of the text in the same order, each found at `Span.origin`.

What a reading does depends on the tokens' spans only to report them. The trees are spelled by
the repair of the lexemes (`Reading.lexemesList_ofTokens`), and the issues are read off the
brackets where the reading stops (`Reading.issues_readFrom`); moving every token to one span
moves every issue there (`Reading.stopIssues_withSpan`).
-/

namespace Concat

namespace Token

/-- The same lexeme, at the span `sp`. -/
def withSpan (t : Token) (sp : Span) : Token := ⟨t.lexeme, sp⟩

@[simp] theorem lexeme_withSpan (t : Token) (sp : Span) : (t.withSpan sp).lexeme = t.lexeme := rfl

@[simp] theorem span_withSpan (t : Token) (sp : Span) : (t.withSpan sp).span = sp := rfl

end Token

namespace ParseIssue

/-- The same issue, found at the span `sp`. -/
def withSpan : ParseIssue → Span → ParseIssue
  | strayClose _, sp => strayClose sp
  | unclosedOpen _, sp => unclosedOpen sp
  | tooDeep _, sp => tooDeep sp

end ParseIssue

namespace Reading

/-- The trees read from tokens depend on their lexemes alone. -/
theorem trees_ofTokens_of_lexemes {ts ts' : List Token}
    (h : ts.map (·.lexeme) = ts'.map (·.lexeme)) : (ofTokens ts).trees = (ofTokens ts').trees :=
  Tree.lexemesList_inj (by rw [lexemesList_ofTokens, lexemesList_ofTokens, repair, repair, h])

/-- With every token and every open `[` moved to one span, the `[`s left open are the same ones,
    at that span. -/
theorem openAfter_withSpan (opens : List Span) (ts : List Token) (sp : Span) :
    openAfter (opens.map fun _ => sp) (ts.map (·.withSpan sp)) =
      (openAfter opens ts).map fun _ => sp := by
  induction ts generalizing opens with
  | nil => rfl
  | cons t ts ih =>
    rw [List.map_cons, openAfter_cons, openAfter_cons, ← ih]
    congr 1
    obtain ⟨l, sp'⟩ := t
    cases l <;> simp [openStep, Token.withSpan, List.map_tail]

/-- With every token and every open `[` moved to one span, a reading stops at the same place,
    and reports the same issues in the same order, each at that span. -/
theorem stopIssues_withSpan (opens : List Span) (ts : List Token) (sp : Span) :
    stopIssues (opens.map fun _ => sp) (ts.map (·.withSpan sp)) =
      (stopIssues opens ts).map (·.withSpan sp) := by
  have hkept : keptFrom (opens.map fun _ => sp).length ((ts.map (·.withSpan sp)).map (·.lexeme)) =
      keptFrom opens.length (ts.map (·.lexeme)) := by
    simp [List.map_map, Function.comp_def]
  unfold stopIssues
  rw [hkept, ← List.map_drop]
  -- The reading stops at the same token, moved.
  cases hdrop : ts.drop (keptFrom opens.length (ts.map (·.lexeme))) with
  | nil =>
    simp only [List.map_nil, openAfter_withSpan, List.map_map]
    rfl
  | cons t rest =>
    obtain ⟨l, sp'⟩ := t
    cases l
    · rfl
    · rfl
    · rw [openAfter_withSpan]
      simp only [List.map_cons, Token.withSpan, List.map_map]
      rfl

end Reading

/-- The texts of a text's tokens read as the text does. Each token the scanner gives is the token
    its text names, a bracket for a bracket and a word for a word. Reading the texts as bare
    strings gives the trees of the text, and the issues of the text, of the same kinds and in the
    same order, each at `Span.origin`. -/
theorem reads_strings_as_text (s : String) :
    (∀ t ∈ Token.scan s, Lexeme.ofText t.lexeme.text = t.lexeme) ∧
    (Reading.ofStrings (Token.strings s)).trees = (Reading.ofText s).trees ∧
    (Reading.ofStrings (Token.strings s)).issues =
      (Reading.ofText s).issues.map (·.withSpan Span.origin) := by
  have hnames : ∀ t ∈ Token.scan s, Lexeme.ofText t.lexeme.text = t.lexeme :=
    fun t ht => ((Token.segments_scan s).occurs t ht).lexeme_eq
  -- The bare strings are the scanned tokens, moved to the origin.
  have htoks :
      (Token.strings s).map Token.ofText = (Token.scan s).map (·.withSpan Span.origin) := by
    rw [Token.strings, List.map_map]
    refine List.map_congr_left fun t ht => ?_
    simp [Token.ofText, Token.withSpan, hnames t ht]
  refine ⟨hnames, ?_, ?_⟩
  · rw [Reading.ofStrings, htoks, Reading.ofText]
    exact Reading.trees_ofTokens_of_lexemes (by simp [List.map_map, Function.comp_def])
  · rw [Reading.ofStrings, htoks, Reading.ofText, Reading.ofTokens, Reading.ofTokens,
      Reading.issues_readFrom, Reading.issues_readFrom]
    exact Reading.stopIssues_withSpan [] (Token.scan s) Span.origin

end Concat
