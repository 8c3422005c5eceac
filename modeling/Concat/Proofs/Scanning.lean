import Concat.Token

/-!
# Scanning text

How `Token.scan` reads the characters of a text: a bracket is a token of one byte, a blank
is skipped, and a word takes every word character up to the next blank or bracket. The
offsets only mark where a token stands: the lexemes scanned from a list of characters are the
same whatever offset the scanning starts from.

* `Token.scanFrom_openBracket`, `Token.scanFrom_closeBracket`, `Token.scanFrom_blank` and
  `Token.scanFrom_word`: the scanner, one class of characters at a time;
* `Token.lexemes_scanFrom`: the lexemes do not depend on the starting offset;
* `Token.scanFrom_append_blank`: a blank cuts a text into two texts scanned apart, the second
  one from the offset where it starts;
* `Token.isWordText_of_mem_scanFrom`: every word scanned can be read back as one word.
-/

namespace Concat

namespace Token

/-- A text that reads back as one word: it is not empty, and every character of it can stand in
    a word. -/
def isWordText (w : String) : Bool :=
  !w.toList.isEmpty && w.toList.all isWordChar

theorem isWordText_iff (w : String) :
    isWordText w = true ↔ w.toList ≠ [] ∧ ∀ c ∈ w.toList, isWordChar c = true := by
  simp [isWordText]

@[simp] theorem byteLength_nil : byteLength [] = 0 := rfl

@[simp] theorem byteLength_cons (c : Char) (cs : List Char) :
    byteLength (c :: cs) = c.utf8Size + byteLength cs := rfl

theorem byteLength_append (cs ds : List Char) :
    byteLength (cs ++ ds) = byteLength cs + byteLength ds := by
  induction cs with
  | nil => simp
  | cons c cs ih => simp [ih, Nat.add_assoc]

theorem isWordChar_eq_true_iff (c : Char) :
    isWordChar c = true ↔ Text.isBlank c = false ∧ c ≠ '[' ∧ c ≠ ']' := by
  simp [isWordChar, and_assoc]

/-! ## One class of characters at a time -/

@[simp] theorem scanFrom_nil (pos : Nat) : scanFrom pos [] = [] := by
  rw [scanFrom]

theorem scanFrom_openBracket (pos : Nat) (cs : List Char) :
    scanFrom pos ('[' :: cs) = ⟨.openBracket, ⟨pos, pos + 1⟩⟩ :: scanFrom (pos + 1) cs := by
  rw [scanFrom]
  simp

theorem scanFrom_closeBracket (pos : Nat) (cs : List Char) :
    scanFrom pos (']' :: cs) = ⟨.closeBracket, ⟨pos, pos + 1⟩⟩ :: scanFrom (pos + 1) cs := by
  rw [scanFrom]
  simp

theorem scanFrom_blank {c : Char} (hc : Text.isBlank c = true) (pos : Nat) (cs : List Char) :
    scanFrom pos (c :: cs) = scanFrom (pos + c.utf8Size) cs := by
  -- A blank is neither bracket.
  have hopen : c ≠ '[' := by rintro rfl; simp [Text.isBlank] at hc
  have hclose : c ≠ ']' := by rintro rfl; simp [Text.isBlank] at hc
  rw [scanFrom]
  simp [hopen, hclose, hc]

/-- A word is scanned whole when what follows it cannot continue it. -/
theorem scanFrom_word {w rest : List Char} (hw : w ≠ []) (hword : ∀ c ∈ w, isWordChar c = true)
    (hrest : ∀ c cs, rest = c :: cs → isWordChar c = false) (pos : Nat) :
    scanFrom pos (w ++ rest) =
      ⟨.word (String.ofList w), ⟨pos, pos + byteLength w⟩⟩ :: scanFrom (pos + byteLength w) rest := by
  obtain ⟨c, w, rfl⟩ := List.exists_cons_of_ne_nil hw
  obtain ⟨hblank, hopen, hclose⟩ := (isWordChar_eq_true_iff c).1 (hword c (by simp))
  have hw' : ∀ a ∈ w, isWordChar a = true := fun a ha => hword a (by simp [ha])
  -- The word ends where `rest` starts.
  have hstop : rest.takeWhile isWordChar = [] ∧ rest.dropWhile isWordChar = rest := by
    cases rest with
    | nil => simp
    | cons d ds =>
      have hd := hrest d ds rfl
      exact ⟨List.takeWhile_cons_of_neg (by simp [hd]), List.dropWhile_cons_of_neg (by simp [hd])⟩
  rw [List.cons_append, scanFrom]
  simp [hopen, hclose, hblank, List.takeWhile_append_of_pos hw', List.dropWhile_append_of_pos hw',
    hstop.1, hstop.2]

/-! ## Offsets -/

/-- The lexemes scanned from a list of characters do not depend on the starting offset. -/
theorem lexemes_scanFrom (p q : Nat) (cs : List Char) :
    (scanFrom p cs).map (·.lexeme) = (scanFrom q cs).map (·.lexeme) := by
  fun_induction scanFrom p cs generalizing q with
  | case1 => simp
  | case2 p cs ih => simp [scanFrom_openBracket, ih (q + 1)]
  | case3 p cs _ ih => simp [scanFrom_closeBracket, ih (q + 1)]
  | case4 p c cs _ _ hblank ih =>
    rw [scanFrom_blank hblank]
    exact ih _
  | case5 p c cs hopen hclose hblank w stop ih =>
    conv => rhs; rw [scanFrom]
    simp only [hopen, hclose, hblank, Bool.false_eq_true, ↓reduceIte, List.map_cons,
      List.cons.injEq]
    exact ⟨rfl, ih _⟩

private theorem takeWhile_append_cons_of_neg {p : Char → Bool} {c : Char} (hc : p c = false)
    (l b : List Char) : (l ++ c :: b).takeWhile p = l.takeWhile p := by
  induction l with
  | nil => simp [hc]
  | cons a l ih => by_cases ha : p a <;> simp [ha, ih]

private theorem dropWhile_append_cons_of_neg {p : Char → Bool} {c : Char} (hc : p c = false)
    (l b : List Char) : (l ++ c :: b).dropWhile p = l.dropWhile p ++ c :: b := by
  induction l with
  | nil => simp [hc]
  | cons a l ih => by_cases ha : p a <;> simp [ha, ih]

/-- A blank cuts a text into two texts scanned apart, the second from where it starts. -/
theorem scanFrom_append_blank {c : Char} (hc : Text.isBlank c = true) (pos : Nat)
    (a b : List Char) :
    scanFrom pos (a ++ c :: b) = scanFrom pos a ++ scanFrom (pos + byteLength a + c.utf8Size) b := by
  have hcw : isWordChar c = false := by simp [isWordChar, hc]
  have hbracket : '['.utf8Size = 1 ∧ ']'.utf8Size = 1 := ⟨rfl, rfl⟩
  fun_induction scanFrom pos a with
  | case1 pos => simp [scanFrom_blank hc]
  | case2 pos cs ih =>
    rw [List.cons_append, scanFrom_openBracket, ih]
    simp [hbracket, Nat.add_assoc]
  | case3 pos cs _ ih =>
    rw [List.cons_append, scanFrom_closeBracket, ih]
    simp [hbracket, Nat.add_assoc]
  | case4 pos d cs _ _ hblank ih =>
    rw [List.cons_append, scanFrom_blank hblank, ih]
    simp [Nat.add_assoc]
  | case5 pos d cs hopen hclose hblank w stop ih =>
    -- The word stops at the blank, or at a character before it.
    have hsplit := congrArg byteLength (List.takeWhile_append_dropWhile (p := isWordChar) (l := cs))
    rw [byteLength_append] at hsplit
    have hpos : stop + byteLength (cs.dropWhile isWordChar) = pos + byteLength (d :: cs) := by
      simp only [stop, w, byteLength_cons]
      omega
    rw [List.cons_append, scanFrom]
    simp only [hopen, hclose, hblank, Bool.false_eq_true, ↓reduceIte,
      takeWhile_append_cons_of_neg hcw, dropWhile_append_cons_of_neg hcw]
    rw [show pos + byteLength (d :: cs.takeWhile isWordChar) = stop from rfl, ih, hpos,
      List.cons_append]

/-! ## Words -/

/-- Every word the scanner gives reads back as one word. -/
theorem isWordText_of_mem_scanFrom {pos : Nat} {cs : List Char} {t : Token} {w : String}
    (ht : t ∈ scanFrom pos cs) (hw : t.lexeme = .word w) : isWordText w = true := by
  fun_induction scanFrom pos cs with
  | case1 => simp at ht
  | case2 pos cs ih =>
    rw [List.mem_cons] at ht
    rcases ht with rfl | ht
    · cases hw
    · exact ih ht
  | case3 pos cs _ ih =>
    rw [List.mem_cons] at ht
    rcases ht with rfl | ht
    · cases hw
    · exact ih ht
  | case4 pos c cs hopen hclose hblank ih => exact ih ht
  | case5 pos c cs hopen hclose hblank w' stop ih =>
    rw [List.mem_cons] at ht
    rcases ht with rfl | ht
    · -- The word is its first character and the word characters after it.
      cases hw
      have hc : isWordChar c = true := (isWordChar_eq_true_iff c).2 ⟨by simpa using hblank, hopen, hclose⟩
      rw [isWordText_iff, String.toList_ofList]
      refine ⟨by simp, fun d hd => ?_⟩
      rcases List.mem_cons.1 hd with rfl | hd
      · exact hc
      · exact List.all_eq_true.1 List.all_takeWhile d hd
    · exact ih ht

end Token

end Concat
