import Concat.Proofs.Scanning
import Mathlib.Data.List.Forall2

/-!
# The tokens of a text, said without the scanner

A token *stands* in a text (`Token.Occurs`) when the text is cut into three: the characters
before it, the characters that spell its lexeme, and the characters after it; its span runs
from the byte offset where its characters start to the one where they stop. A word stands in
the text only as a whole run of word characters, which no word character continues on either
side (`Token.IsWordRun`). A list of tokens *segments* a text (`Token.Segments`) when each of
its tokens stands in the text, each ends before the next one starts, and every character that
no token covers is blank.

The scanner gives the one list of tokens that segments a text (`Token.segments_iff_eq_scan`),
so its words are longest matches. That no other list does comes from the tokens themselves:
a token that covers the first character of another is that other token
(`Token.Occurs.eq_of_covers`), so every token that stands in the text is one of a
segmentation (`Token.Segments.mem_iff`), and an ordered list is fixed by its members.

* `Token.IsWordRun.unique`: two whole words that start at one place are the same word;
* `Token.Occurs.lexeme_eq`: a token's lexeme is what its characters spell, so it is the lexeme
  `Lexeme.ofText` gives for its text;
* `Token.segments_scan`: the scanner's tokens segment the text.
-/

namespace Concat

namespace Span

/-- The span covers the byte at offset `b`. -/
def Covers (sp : Span) (b : Nat) : Prop :=
  sp.start ≤ b ∧ b < sp.stop

end Span

namespace Token

/-- The characters `piece`, between `pre` and `post`, are a whole word: not empty, made of word
    characters, and continued by no word character on either side. -/
def IsWordRun (pre piece post : List Char) : Prop :=
  piece ≠ [] ∧ (∀ c ∈ piece, isWordChar c = true) ∧
    (∀ c ∈ pre.getLast?, isWordChar c = false) ∧ ∀ c ∈ post.head?, isWordChar c = false

/-- The token `t` stands in the characters `cs`: they are some characters `pre`, the characters
    `piece` that spell its lexeme, and some characters `post`; its span runs from the byte
    offset where `piece` starts to the one where it stops; and a word is a whole word there. -/
def Occurs (cs : List Char) (t : Token) : Prop :=
  ∃ pre piece post, cs = pre ++ piece ++ post ∧
    t.span = ⟨byteLength pre, byteLength pre + byteLength piece⟩ ∧
    t.lexeme.text.toList = piece ∧ ∀ w, t.lexeme = .word w → IsWordRun pre piece post

/-- The tokens `toks` segment the text `s`: each stands in it, each ends before the next one
    starts, and every character that no token covers is blank. -/
structure Segments (s : String) (toks : List Token) : Prop where
  occurs : ∀ t ∈ toks, Occurs s.toList t
  ordered : toks.Pairwise fun t u => t.span.stop ≤ u.span.start
  blank : ∀ pre c post, s.toList = pre ++ c :: post →
    (∀ t ∈ toks, ¬ t.span.Covers (byteLength pre)) → Text.isBlank c = true

@[simp] theorem isWordChar_openBracket : isWordChar '[' = false := rfl

@[simp] theorem isWordChar_closeBracket : isWordChar ']' = false := rfl

/-! ## Byte offsets of cuts -/

theorem byteLength_pos {cs : List Char} (h : cs ≠ []) : 0 < byteLength cs := by
  obtain ⟨c, cs, rfl⟩ := List.exists_cons_of_ne_nil h
  have := Char.utf8Size_pos c
  simp only [byteLength_cons]
  omega

theorem byteLength_eq_zero {cs : List Char} (h : byteLength cs = 0) : cs = [] := by
  cases cs with
  | nil => rfl
  | cons c cs =>
    have := Char.utf8Size_pos c
    simp only [byteLength_cons] at h
    omega

/-- Of two cuts of one list, the one whose first part is no longer in bytes cuts into the
    second part of the other. -/
theorem exists_cut_of_byteLength_le {pre pre' x y : List Char} (h : pre ++ x = pre' ++ y)
    (hle : byteLength pre' ≤ byteLength pre) : ∃ m, pre = pre' ++ m ∧ y = m ++ x := by
  rcases List.append_eq_append_iff.1 h with ⟨a, rfl, rfl⟩ | ⟨m, rfl, rfl⟩
  · -- The first part of the other cut is at least as long, so the two cuts are one.
    rw [byteLength_append] at hle
    obtain rfl := byteLength_eq_zero (by omega : byteLength a = 0)
    exact ⟨[], by simp, by simp⟩
  · exact ⟨m, rfl, rfl⟩

/-! ## Whole words -/

/-- Two whole words that start at one place are the same word: where one stopped, the other
    would go on with a word character. -/
theorem IsWordRun.unique {pre pre' piece piece' post post' : List Char}
    (h : IsWordRun pre piece post) (h' : IsWordRun pre' piece' post')
    (heq : piece ++ post = piece' ++ post') : piece = piece' := by
  rcases List.append_eq_append_iff.1 heq with ⟨a, rfl, rfl⟩ | ⟨a, rfl, rfl⟩
  · cases a with
    | nil => simp
    | cons d a =>
      have hd := h'.2.1 d (by simp)
      have := h.2.2.2 d (by simp)
      simp_all
  · cases a with
    | nil => simp
    | cons d a =>
      have hd := h.2.1 d (by simp)
      have := h'.2.2.2 d (by simp)
      simp_all

/-! ## Tokens in a text -/

/-- The characters of a token are a bracket, or a whole word. -/
theorem Occurs.piece_cases {cs : List Char} {t : Token} (h : Occurs cs t) :
    ∃ pre piece post, cs = pre ++ piece ++ post ∧
      t.span = ⟨byteLength pre, byteLength pre + byteLength piece⟩ ∧
      t.lexeme.text.toList = piece ∧
      (piece = ['['] ∨ piece = [']'] ∨ IsWordRun pre piece post) := by
  obtain ⟨pre, piece, post, hcs, hspan, htext, hword⟩ := h
  refine ⟨pre, piece, post, hcs, hspan, htext, ?_⟩
  cases hl : t.lexeme with
  | openBracket => rw [hl] at htext; exact .inl htext.symm
  | closeBracket => rw [hl] at htext; exact .inr (.inl htext.symm)
  | word w => exact .inr (.inr (hword w hl))

/-- What the characters of a token spell decides its lexeme: `Lexeme.ofText` of its text. -/
theorem Lexeme.ofText_of_piece {l : Lexeme} {pre piece post : List Char}
    (htext : l.text.toList = piece) (hword : ∀ w, l = .word w → IsWordRun pre piece post) :
    Lexeme.ofText (String.ofList piece) = l := by
  rw [← htext, String.ofList_toList]
  cases l with
  | openBracket => rfl
  | closeBracket => rfl
  | word w =>
    -- A word is made of word characters, so it is no bracket.
    obtain ⟨-, hchars, -⟩ := hword w rfl
    have hopen : w ≠ "[" := by
      rintro rfl
      simp [Lexeme.text] at htext
      exact absurd (hchars '[' (by simp [← htext])) (by decide)
    have hclose : w ≠ "]" := by
      rintro rfl
      simp [Lexeme.text] at htext
      exact absurd (hchars ']' (by simp [← htext])) (by decide)
    simp [Lexeme.ofText, Lexeme.text, hopen, hclose]

/-- A token that stands in a text is the token its characters spell, at their place. -/
theorem Occurs.lexeme_eq {cs : List Char} {t : Token} (h : Occurs cs t) :
    Lexeme.ofText t.lexeme.text = t.lexeme := by
  obtain ⟨pre, piece, post, -, -, htext, hword⟩ := h
  have := Lexeme.ofText_of_piece htext hword
  rwa [← htext, String.ofList_toList] at this

theorem Occurs.start_lt_stop {cs : List Char} {t : Token} (h : Occurs cs t) :
    t.span.start < t.span.stop := by
  obtain ⟨pre, piece, post, -, hspan, -, hcases⟩ := h.piece_cases
  have hne : piece ≠ [] := by
    rcases hcases with rfl | rfl | hrun
    · simp
    · simp
    · exact hrun.1
  have := byteLength_pos hne
  rw [hspan]
  dsimp only
  omega

/-- A token that covers the first character of another is that other token. The two cuts
    meet at that character: a bracket is a single character, so both tokens are that bracket;
    otherwise both are whole words, and a whole word cannot start inside another. -/
theorem Occurs.eq_of_covers {cs : List Char} {t u : Token} (ht : Occurs cs t) (hu : Occurs cs u)
    (hcov : u.span.Covers t.span.start) : t = u := by
  obtain ⟨pre, piece, post, hcs, hspan, htext, hcases⟩ := ht.piece_cases
  obtain ⟨pre', piece', post', hcs', hspan', htext', hcases'⟩ := hu.piece_cases
  rw [hspan, hspan'] at hcov
  obtain ⟨hle, hlt⟩ := hcov
  dsimp only at hle hlt
  -- Both tokens are fixed by their cut, so it is enough that the cuts are the same.
  suffices hcut : pre = pre' ∧ piece = piece' by
    obtain ⟨rfl, rfl⟩ := hcut
    have hl : t.lexeme = u.lexeme := by
      rw [← ht.lexeme_eq, ← hu.lexeme_eq, String.toList_inj.1 (htext.trans htext'.symm)]
    cases t
    cases u
    simp_all
  have hpiece : piece ≠ [] := by
    rcases hcases with rfl | rfl | hrun
    · simp
    · simp
    · exact hrun.1
  obtain ⟨c, rest, rfl⟩ := List.exists_cons_of_ne_nil hpiece
  rw [hcs', List.append_assoc, List.append_assoc] at hcs
  obtain ⟨m, rfl, hm⟩ := exists_cut_of_byteLength_le hcs.symm hle
  rw [byteLength_append] at hlt
  -- The other token's characters go on past `m`, with `c` next.
  obtain ⟨r, rfl⟩ : ∃ r, piece' = m ++ c :: r := by
    rcases List.append_eq_append_iff.1 hm with ⟨a, rfl, -⟩ | ⟨a, rfl, ha⟩
    · rw [byteLength_append] at hlt
      omega
    · cases a with
      | nil => simp at hlt
      | cons d a =>
        simp only [List.cons_append, List.cons.injEq] at ha
        exact ⟨a, by rw [ha.1]⟩
  have hsame : (c :: rest) ++ post = (c :: r) ++ post' := by simpa using hm.symm
  rcases hcases' with h' | h' | hrun'
  · -- The other token is the bracket `[`, so `c` is that bracket.
    obtain ⟨rfl, rfl, rfl⟩ : m = [] ∧ c = '[' ∧ r = [] := by
      cases m with
      | nil => simpa using h'
      | cons a m => simp at h'
    rcases hcases with h | h | hrun
    · exact ⟨List.append_nil _, h⟩
    · simp at h
    · exact absurd (hrun.2.1 '[' (by simp)) (by decide)
  · obtain ⟨rfl, rfl, rfl⟩ : m = [] ∧ c = ']' ∧ r = [] := by
      cases m with
      | nil => simpa using h'
      | cons a m => simp at h'
    rcases hcases with h | h | hrun
    · simp at h
    · exact ⟨List.append_nil _, h⟩
    · exact absurd (hrun.2.1 ']' (by simp)) (by decide)
  · -- The other token is a whole word, and `c` is one of its word characters.
    have hc : isWordChar c = true := hrun'.2.1 c (by simp)
    rcases hcases with h | h | hrun
    · simp only [List.cons.injEq] at h
      rw [h.1] at hc
      exact absurd hc (by decide)
    · simp only [List.cons.injEq] at h
      rw [h.1] at hc
      exact absurd hc (by decide)
    · -- A whole word does not start inside another one.
      obtain rfl : m = [] := by
        cases hd : m.getLast? with
        | none => exact List.getLast?_eq_none_iff.1 hd
        | some d =>
          have hleft := hrun.2.2.1 d (by simp [List.getLast?_append, hd])
          have hin := hrun'.2.1 d (List.mem_append_left _ (List.mem_of_getLast? hd))
          rw [hleft] at hin
          cases hin
      simp only [List.nil_append] at hrun'
      exact ⟨List.append_nil _, by simpa using hrun.unique hrun' hsame⟩

/-! ## Segmentations -/

namespace Segments

variable {s : String} {toks : List Token}

/-- Every token that stands in the text is one of a segmentation: its first character is no
    blank, so a token of the segmentation covers it, and that token is this one. -/
theorem mem_of_occurs (h : Segments s toks) {t : Token} (ht : Occurs s.toList t) : t ∈ toks := by
  obtain ⟨pre, piece, post, hcs, hspan, -, hcases⟩ := ht.piece_cases
  obtain ⟨c, rest, rfl⟩ : ∃ c rest, piece = c :: rest := by
    rcases hcases with rfl | rfl | hrun
    · exact ⟨_, _, rfl⟩
    · exact ⟨_, _, rfl⟩
    · exact List.exists_cons_of_ne_nil hrun.1
  have hc : Text.isBlank c = false := by
    rcases hcases with h | h | hrun
    · simp only [List.cons.injEq] at h
      rw [h.1]
      rfl
    · simp only [List.cons.injEq] at h
      rw [h.1]
      rfl
    · exact ((isWordChar_eq_true_iff c).1 (hrun.2.1 c (by simp))).1
  obtain ⟨u, hu, hcov⟩ : ∃ u ∈ toks, u.span.Covers t.span.start := by
    refine Classical.byContradiction fun hnone => ?_
    have := h.blank pre c (rest ++ post) (by simp [hcs]) fun u hu hcov =>
      hnone ⟨u, hu, by rw [hspan]; exact hcov⟩
    rw [hc] at this
    cases this
  rw [ht.eq_of_covers (h.occurs u hu) hcov]
  exact hu

theorem mem_iff (h : Segments s toks) (t : Token) : t ∈ toks ↔ Occurs s.toList t :=
  ⟨h.occurs t, h.mem_of_occurs⟩

/-- A text has at most one segmentation: both lists have the tokens that stand in the text as
    their members, each in the order of its place. -/
theorem unique {toks' : List Token} (h : Segments s toks) (h' : Segments s toks') :
    toks = toks' := by
  -- Tokens that stand in the text are not empty, so the order of their starts is strict.
  have hstrict : ∀ {l : List Token}, Segments s l →
      l.Pairwise fun t u => t.span.start < u.span.start := fun hl =>
    List.Pairwise.imp_of_mem (fun ht _ hle => by
      have := (hl.occurs _ ht).start_lt_stop
      omega) hl.ordered
  have hnodup : ∀ {l : List Token}, Segments s l → l.Nodup := fun hl =>
    (hstrict hl).imp fun hlt heq => by
      subst heq
      exact Nat.lt_irrefl _ hlt
  have hperm : toks.Perm toks' :=
    (List.perm_ext_iff_of_nodup (hnodup h) (hnodup h')).2 fun t => by rw [h.mem_iff, h'.mem_iff]
  exact hperm.eq_of_pairwise (fun _ _ _ _ h₁ h₂ => absurd (Nat.lt_trans h₁ h₂) (Nat.lt_irrefl _))
    (hstrict h) (hstrict h')

end Segments

/-! ## The scanner -/

/-- Each token scanned stands in the text. The scanning of the rest starts after the
    characters `pre`, and no word runs on from `pre` into the rest. -/
theorem occurs_scanFrom (pos : Nat) (cs : List Char) :
    ∀ pre, byteLength pre = pos →
      (∀ a ∈ pre.getLast?, ∀ b ∈ cs.head?, isWordChar a = false ∨ isWordChar b = false) →
      ∀ t ∈ scanFrom pos cs, Occurs (pre ++ cs) t := by
  have hbracket : '['.utf8Size = 1 ∧ ']'.utf8Size = 1 := ⟨rfl, rfl⟩
  fun_induction scanFrom pos cs with
  | case1 => simp
  | case2 pos cs ih =>
    intro pre hpos _ t ht
    rcases List.mem_cons.1 ht with rfl | ht
    · exact ⟨pre, ['['], cs, by simp, by simp [hpos, hbracket],
        show "[".toList = ['['] from rfl, by simp⟩
    · have := ih (pre ++ ['[']) (by simp [byteLength_append, hpos, hbracket]) (by simp) t ht
      simpa using this
  | case3 pos cs _ ih =>
    intro pre hpos _ t ht
    rcases List.mem_cons.1 ht with rfl | ht
    · exact ⟨pre, [']'], cs, by simp, by simp [hpos, hbracket],
        show "]".toList = [']'] from rfl, by simp⟩
    · have := ih (pre ++ [']']) (by simp [byteLength_append, hpos, hbracket]) (by simp) t ht
      simpa using this
  | case4 pos c cs _ _ hblank ih =>
    intro pre hpos _ t ht
    have hc : isWordChar c = false := by simp [isWordChar, hblank]
    have := ih (pre ++ [c]) (by simp [byteLength_append, hpos]) (by simp [hc]) t ht
    simpa using this
  | case5 pos c cs hopen hclose hblank w stop ih =>
    intro pre hpos hctx t ht
    have hc : isWordChar c = true :=
      (isWordChar_eq_true_iff c).2 ⟨by simpa using hblank, hopen, hclose⟩
    have hsplit : c :: cs = w ++ cs.dropWhile isWordChar := by
      simp [w, List.takeWhile_append_dropWhile]
    -- The word stops at a character that cannot continue it.
    have hnext : ∀ b ∈ (cs.dropWhile isWordChar).head?, isWordChar b = false := by
      intro b hb
      have := List.head?_dropWhile_not isWordChar cs
      rwa [Option.mem_def.1 hb] at this
    rcases List.mem_cons.1 ht with rfl | ht
    · refine ⟨pre, w, cs.dropWhile isWordChar, by rw [hsplit, List.append_assoc],
        by simp [hpos, stop], by simp [w, Lexeme.text], ?_⟩
      rintro _ ⟨⟩
      refine ⟨by simp [w], ?_, ?_, hnext⟩
      · intro d hd
        rcases List.mem_cons.1 hd with rfl | hd
        · exact hc
        · exact List.all_eq_true.1 List.all_takeWhile d hd
      · intro a ha
        simpa [hc] using hctx a ha c (by simp)
    · have := ih (pre ++ w) (by simp [byteLength_append, hpos, stop]) (fun a _ b hb => .inr (hnext b hb))
        t ht
      rwa [List.append_assoc, ← hsplit] at this

/-- Every character that is not blank is covered by a token scanned. -/
theorem covers_scanFrom (pos : Nat) (cs : List Char) :
    ∀ pre c post, cs = pre ++ c :: post → Text.isBlank c = false →
      ∃ t ∈ scanFrom pos cs, t.span.Covers (pos + byteLength pre) := by
  have hbracket : '['.utf8Size = 1 ∧ ']'.utf8Size = 1 := ⟨rfl, rfl⟩
  fun_induction scanFrom pos cs with
  | case1 => intro pre c post h; simp at h
  | case2 pos cs ih =>
    intro pre c post hcs hc
    cases pre with
    | nil => exact ⟨_, List.mem_cons_self, by simp [Span.Covers]⟩
    | cons a pre =>
      simp only [List.cons_append, List.cons.injEq] at hcs
      obtain ⟨rfl, hcs⟩ := hcs
      obtain ⟨t, ht, hcov⟩ := ih pre c post hcs hc
      refine ⟨t, List.mem_cons_of_mem _ ht, ?_⟩
      simpa [hbracket, Nat.add_assoc, Nat.add_comm 1] using hcov
  | case3 pos cs _ ih =>
    intro pre c post hcs hc
    cases pre with
    | nil => exact ⟨_, List.mem_cons_self, by simp [Span.Covers]⟩
    | cons a pre =>
      simp only [List.cons_append, List.cons.injEq] at hcs
      obtain ⟨rfl, hcs⟩ := hcs
      obtain ⟨t, ht, hcov⟩ := ih pre c post hcs hc
      refine ⟨t, List.mem_cons_of_mem _ ht, ?_⟩
      simpa [hbracket, Nat.add_assoc, Nat.add_comm 1] using hcov
  | case4 pos d cs _ _ hblank ih =>
    intro pre c post hcs hc
    cases pre with
    | nil =>
      simp only [List.nil_append, List.cons.injEq] at hcs
      rw [← hcs.1] at hc
      simp_all
    | cons a pre =>
      simp only [List.cons_append, List.cons.injEq] at hcs
      obtain ⟨rfl, hcs⟩ := hcs
      obtain ⟨t, ht, hcov⟩ := ih pre c post hcs hc
      exact ⟨t, ht, by simpa [Nat.add_assoc] using hcov⟩
  | case5 pos d cs hopen hclose hblank w stop ih =>
    intro pre c post hcs hc
    have hsplit : d :: cs = w ++ cs.dropWhile isWordChar := by
      simp [w, List.takeWhile_append_dropWhile]
    rw [hsplit] at hcs
    rcases List.append_eq_append_iff.1 hcs with ⟨m, rfl, hm⟩ | ⟨a, hw, ha⟩
    · -- The character comes after the word.
      obtain ⟨t, ht, hcov⟩ := ih m c post hm hc
      exact ⟨t, List.mem_cons_of_mem _ ht, by simpa [stop, byteLength_append, Nat.add_assoc] using hcov⟩
    · -- The character is one of the word's, or the first after it.
      cases a with
      | nil =>
        obtain ⟨t, ht, hcov⟩ := ih [] c post (by simpa using ha.symm) hc
        exact ⟨t, List.mem_cons_of_mem _ ht, by simpa [stop, hw] using hcov⟩
      | cons e a =>
        refine ⟨_, List.mem_cons_self, ?_⟩
        have := Char.utf8Size_pos e
        simp [Span.Covers, stop, hw, byteLength_append]
        omega

theorem start_le_of_mem_scanFrom {pos : Nat} {cs : List Char} {t : Token}
    (ht : t ∈ scanFrom pos cs) : pos ≤ t.span.start := by
  fun_induction scanFrom pos cs with
  | case1 => simp at ht
  | case2 pos cs ih =>
    rcases List.mem_cons.1 ht with rfl | ht
    · exact Nat.le_refl _
    · exact Nat.le_of_succ_le (ih ht)
  | case3 pos cs _ ih =>
    rcases List.mem_cons.1 ht with rfl | ht
    · exact Nat.le_refl _
    · exact Nat.le_of_succ_le (ih ht)
  | case4 pos c cs _ _ _ ih => exact Nat.le_trans (Nat.le_add_right _ _) (ih ht)
  | case5 pos c cs _ _ _ w stop ih =>
    rcases List.mem_cons.1 ht with rfl | ht
    · exact Nat.le_refl _
    · exact Nat.le_trans (Nat.le_add_right _ _) (ih ht)

/-- Each token scanned ends before the next one starts. -/
theorem pairwise_scanFrom (pos : Nat) (cs : List Char) :
    (scanFrom pos cs).Pairwise fun t u => t.span.stop ≤ u.span.start := by
  fun_induction scanFrom pos cs with
  | case1 => simp
  | case2 pos cs ih => exact List.pairwise_cons.2 ⟨fun u hu => start_le_of_mem_scanFrom hu, ih⟩
  | case3 pos cs _ ih => exact List.pairwise_cons.2 ⟨fun u hu => start_le_of_mem_scanFrom hu, ih⟩
  | case4 => assumption
  | case5 pos c cs _ _ _ w stop ih =>
    exact List.pairwise_cons.2 ⟨fun u hu => start_le_of_mem_scanFrom hu, ih⟩

/-- The scanner's tokens segment the text. -/
theorem segments_scan (s : String) : Segments s (scan s) where
  occurs := occurs_scanFrom 0 s.toList [] rfl (by simp)
  ordered := pairwise_scanFrom 0 s.toList
  blank pre c post hcs hnone := by
    cases hc : Text.isBlank c with
    | true => rfl
    | false =>
      obtain ⟨t, ht, hcov⟩ := covers_scanFrom 0 s.toList pre c post hcs hc
      exact absurd (by simpa using hcov) (hnone t ht)

/-- The scanner gives the one list of tokens that segments a text. -/
theorem segments_iff_eq_scan (s : String) (toks : List Token) : Segments s toks ↔ toks = scan s :=
  ⟨fun h => h.unique (segments_scan s), fun h => h ▸ segments_scan s⟩

/-- The scanner reads a text by longest match. A list of tokens segments the text (each token
    stands in it, as a bracket or as a whole word that no word character continues, each ends
    before the next one starts, and every character that no token covers is blank) exactly when
    it is the scanner's list. The texts of the scanner's tokens, in order, are the characters
    that their spans mark in the text. -/
theorem scan_is_longest_match (s : String) (toks : List Token) :
    (Segments s toks ↔ toks = scan s) ∧
    List.Forall₂ (fun (w : String) (t : Token) => ∃ pre post, s.toList = pre ++ w.toList ++ post ∧
      t.span = ⟨byteLength pre, byteLength pre + byteLength w.toList⟩) (strings s) (scan s) := by
  refine ⟨segments_iff_eq_scan s toks, ?_⟩
  rw [strings, List.forall₂_map_left_iff, List.forall₂_same]
  intro t ht
  obtain ⟨pre, piece, post, hcs, hspan, htext, -⟩ := (segments_scan s).occurs t ht
  exact ⟨pre, post, by rw [htext, hcs], by rw [htext, hspan]⟩

end Token

end Concat
