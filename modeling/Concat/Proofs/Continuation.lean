import Concat.Proofs.Repair
import Concat.Proofs.Scanning
import Concat.Console.LineReader

/-!
# Continuing an entry, and reading it

The console takes in a further line while an entry leaves a `[` open (`LineReader.isComplete`).
It decides this on characters, with a count that never goes below zero. Reading works on tokens
instead: it stops at a `]` that closes nothing and at a `[` one level too deep, and records an
issue there. The two agree where it matters. The count is the level that the lexemes of the
text leave, since a word holds no bracket and a blank is none (`openDepth_eq_levelAfter`).
Reading with no issue leaves level zero, and a `[` left open by reading is still counted.

* `LineReader.openDepth_eq_levelAfter`: the count is the level left by the lexemes of the text;
* `LineReader.openDepth_trimBlanks`: the blanks at the ends of an entry are not counted;
* `LineReader.continuation_agrees_with_reading`: an entry that the console continues is read
  with an issue, so strict reading refuses it; an entry read with a `[` left open is one the
  console continues; so the entry the console evaluates never leaves a `[` open.
-/

namespace Concat

namespace Reading

/-- Strict reading fails with the first issue, when there is one. -/
theorem strict_eq_error_iff {r : Reading} {i : ParseIssue} :
    r.strict = .error i ↔ r.issues.head? = some i := by
  unfold strict
  split <;> simp_all

end Reading

namespace LineReader

/-- Characters that are not brackets leave the count as it is. -/
theorem foldl_count_of_not_bracket {cs : List Char} (h : ∀ c ∈ cs, c ≠ '[' ∧ c ≠ ']')
    (n : Nat) :
    cs.foldl (fun d c => if c = '[' then d + 1 else if c = ']' then d - 1 else d) n = n := by
  induction cs with
  | nil => rfl
  | cons c cs ih =>
    obtain ⟨hopen, hclose⟩ := h c List.mem_cons_self
    simp only [List.foldl_cons, hopen, hclose, if_false]
    exact ih fun d hd => h d (List.mem_cons_of_mem _ hd)

theorem not_bracket_of_isBlank {c : Char} (h : Text.isBlank c = true) : c ≠ '[' ∧ c ≠ ']' := by
  constructor <;> (rintro rfl; simp [Text.isBlank] at h)

/-- Counting the brackets of characters gives the level that the lexemes scanned from them
    leave: a bracket is a lexeme of its own, and neither a word nor a blank holds one. -/
theorem foldl_count_scanFrom (pos n : Nat) (cs : List Char) :
    cs.foldl (fun d c => if c = '[' then d + 1 else if c = ']' then d - 1 else d) n =
      Reading.levelAfter n ((Token.scanFrom pos cs).map (·.lexeme)) := by
  fun_induction Token.scanFrom pos cs generalizing n with
  | case1 => simp
  | case2 pos cs ih => simp [ih, Reading.levelStep]
  | case3 pos cs _ ih => simp [ih, Reading.levelStep]
  | case4 pos c cs hopen hclose hblank ih =>
    rw [← ih n, List.foldl_cons]
    simp [hopen, hclose]
  | case5 pos c cs hopen hclose hblank w stop ih =>
    -- The word's characters count nothing; the count goes on after the word.
    have hword : ∀ d ∈ c :: cs.takeWhile Token.isWordChar, d ≠ '[' ∧ d ≠ ']' := by
      intro d hd
      rcases List.mem_cons.1 hd with rfl | hd
      · exact ⟨hopen, hclose⟩
      · have := (Token.isWordChar_eq_true_iff d).1 (List.all_eq_true.1 List.all_takeWhile d hd)
        exact ⟨this.2.1, this.2.2⟩
    simp only [List.map_cons, Reading.levelAfter_cons, Reading.levelStep]
    rw [← ih n, ← List.takeWhile_append_dropWhile (p := Token.isWordChar) (l := cs),
      ← List.cons_append, List.foldl_append, foldl_count_of_not_bracket hword,
      List.takeWhile_append_dropWhile]

/-- The count of an entry is the level that the lexemes of its tokens leave. -/
theorem openDepth_eq_levelAfter (s : String) :
    openDepth s = Reading.levelAfter 0 ((Token.scan s).map (·.lexeme)) :=
  foldl_count_scanFrom 0 0 s.toList

/-- The blanks at the ends of an entry are not counted. -/
theorem openDepth_trimBlanks (s : String) : openDepth (Text.trimBlanks s) = openDepth s := by
  have hblank : ∀ cs : List Char, (∀ c ∈ cs, Text.isBlank c = true) → ∀ c ∈ cs, c ≠ '[' ∧ c ≠ ']' :=
    fun _ h c hc => not_bracket_of_isBlank (h c hc)
  unfold openDepth Text.trimBlanks
  rw [String.toList_ofList]
  -- Cut the blanks off the front, then off the back.
  conv => rhs; rw [← List.takeWhile_append_dropWhile (p := Text.isBlank) (l := s.toList)]
  rw [List.foldl_append, foldl_count_of_not_bracket
    (hblank _ fun c hc => List.all_eq_true.1 List.all_takeWhile c hc)]
  conv => rhs; rw [← List.reverse_reverse (s.toList.dropWhile Text.isBlank),
    ← List.takeWhile_append_dropWhile (p := Text.isBlank)
      (l := (s.toList.dropWhile Text.isBlank).reverse)]
  rw [List.reverse_append, List.foldl_append, foldl_count_of_not_bracket
    (hblank _ fun c hc => List.all_eq_true.1 List.all_takeWhile c (List.mem_reverse.1 hc))]

/-- An entry that the console continues is read with an issue: reading without one leaves no
    quotation open. -/
theorem issues_ne_nil_of_isComplete_eq_false {s : String} (h : isComplete s = false) :
    (Reading.ofText s).issues ≠ [] := by
  intro hnil
  obtain ⟨-, hlevel⟩ := (Reading.issues_ofTokens_eq_nil_iff (Token.scan s)).1 hnil
  have hzero : openDepth s = 0 := by rw [openDepth_eq_levelAfter, hlevel]
  simp [isComplete, hzero] at h

/-- An entry read with a `[` left open is one the console continues: reading reports the `[`s
    left open only when no bracket stopped it, and then there are as many as the count. -/
theorem isComplete_eq_false_of_unclosedOpen {s : String} {sp : Span}
    (h : .unclosedOpen sp ∈ (Reading.ofText s).issues) : isComplete s = false := by
  rw [Reading.ofText, Reading.ofTokens, Reading.issues_readFrom, List.map_nil,
    Reading.stopIssues] at h
  split at h
  next => simp at h
  next => simp at h
  next =>
    obtain ⟨o, ho, -⟩ := List.mem_map.1 h
    have hlen : (Reading.openAfter [] (Token.scan s)).length ≠ 0 :=
      Nat.pos_iff_ne_zero.1 (List.length_pos_of_mem ho)
    rw [Reading.length_openAfter, List.length_nil] at hlen
    simp [isComplete, openDepth_eq_levelAfter, hlen]

/-- The console's count agrees with reading. An entry that it continues is read with an issue,
    so strict reading refuses it; an entry that reading finds a `[` left open in is one it
    continues. So an entry that it takes as complete, once the blanks at its ends are cut off,
    is read with no `[` left open, and no session refuses it for one. -/
theorem continuation_agrees_with_reading (s : String) :
    (isComplete s = false →
      (Reading.ofText s).issues ≠ [] ∧ ∃ i, (Reading.ofText s).strict = .error i) ∧
    (∀ sp, .unclosedOpen sp ∈ (Reading.ofText s).issues → isComplete s = false) ∧
    (isComplete s = true → ∀ sp,
      .unclosedOpen sp ∉ (Reading.ofText (Text.trimBlanks s)).issues ∧
      ∀ ss : Session, ss.program (Text.trimBlanks s) ≠ .error (.unclosedOpen sp)) := by
  refine ⟨fun h => ?_, fun sp => isComplete_eq_false_of_unclosedOpen, fun h sp => ?_⟩
  · have hne := issues_ne_nil_of_isComplete_eq_false h
    obtain ⟨i, rest, hcons⟩ := List.exists_cons_of_ne_nil hne
    exact ⟨hne, i, Reading.strict_eq_error_iff.2 (by simp [hcons])⟩
  · -- Cutting the blanks off changes no count, so the trimmed entry is complete too.
    have htrim : isComplete (Text.trimBlanks s) = true := by
      simpa [isComplete, openDepth_trimBlanks] using h
    have hnot : .unclosedOpen sp ∉ (Reading.ofText (Text.trimBlanks s)).issues :=
      fun hmem => by simp [isComplete_eq_false_of_unclosedOpen hmem] at htrim
    refine ⟨hnot, fun ss hprog => hnot ?_⟩
    unfold Session.program at hprog
    split at hprog
    · exact List.mem_of_mem_head? (Reading.strict_eq_error_iff.1 hprog)
    · cases hprog

end LineReader

end Concat
