import Mathlib.Data.String.Basic
import Concat.Console.Complete
import Concat.Proofs.ByteOrder
import Concat.Proofs.Scanning

/-!
# Word completion

The completer cuts the line at the cursor and looks at the last token of what stands before it.
When that token is a word that ends at the cursor, the candidates are the rests of the names
that start with the word: the bound names and the primitive words, less the word itself. They
are sorted and each is kept once, though a name may be both bound and primitive.

A candidate is then exactly a non-empty text that extends the word to a name
(`mem_completions_iff`). Sorting and then dropping adjacent repeats gives a strictly increasing
list (`pairwise_dedup`), in code point order and so in byte order (`Text.lt_iff_toUTF8_lt`).

* `Console.textBefore?_append`: a cursor between two characters cuts the line there;
* `Console.lastWord?_eq_some_iff`: the word before the cursor is the last token, when it is a
  word that ends at the cursor;
* `Console.complete_exact`: the completer's answer, for every line, cursor and dictionary.
-/

namespace Concat

namespace Dictionary

/-- A name is among the bound names exactly when it is bound. -/
theorem mem_names_iff (d : Dictionary) (n : String) : n ∈ d.names ↔ (d.get? n).isSome := by
  simp [names, get?, List.find?_isSome]

end Dictionary

namespace Console

/-! ## The text before the cursor -/

/-- A cursor after the characters `pre` cuts the line after them, whatever follows. -/
theorem charsBefore?_append (pre post : List Char) (pos : Nat) :
    charsBefore? (pre ++ post) pos (pos + Token.byteLength pre) = some pre := by
  induction pre generalizing pos with
  | nil => cases post <;> simp [charsBefore?]
  | cons c pre ih =>
    have hc := Char.utf8Size_pos c
    rw [List.cons_append, charsBefore?, if_neg (by simp only [Token.byteLength_cons]; omega),
      if_neg (by simp only [Token.byteLength_cons]; omega)]
    rw [Token.byteLength_cons, ← Nat.add_assoc, ih]
    rfl

theorem textBefore?_append (pre post : List Char) :
    textBefore? (String.ofList (pre ++ post)) (Token.byteLength pre) = some (String.ofList pre) := by
  have h := charsBefore?_append pre post 0
  rw [Nat.zero_add] at h
  rw [textBefore?, String.toList_ofList, h]
  rfl

theorem utf8ByteSize_ofList (cs : List Char) :
    (String.ofList cs).utf8ByteSize = Token.byteLength cs := by
  induction cs with
  | nil => simp
  | cons c cs ih =>
    simp only [String.ofList_cons, String.utf8ByteSize_append, String.utf8ByteSize_singleton, ih,
      Token.byteLength_cons]

/-! ## The word before the cursor -/

theorem lastWord?_eq_some_iff {text w : String} :
    lastWord? text = some w ↔
      ∃ sp, (Token.scan text).getLast? = some ⟨.word w, sp⟩ ∧ sp.stop = text.utf8ByteSize := by
  unfold lastWord?
  split
  next w' sp h =>
    rw [h]
    by_cases hstop : sp.stop = text.utf8ByteSize
    · simp [hstop, eq_comm]
    · simp only [hstop, if_false, reduceCtorEq, false_iff, not_exists, not_and,
        Option.some.injEq, Token.mk.injEq, Lexeme.word.injEq]
      rintro sp' ⟨-, rfl⟩
      exact hstop
  next h =>
    simp only [reduceCtorEq, false_iff, not_exists, not_and]
    exact fun sp hlast _ => h w sp hlast

/-! ## Sorting and dropping repeats -/

theorem mem_dedup {a : String} {l : List String} : a ∈ dedup l ↔ a ∈ l := by
  fun_induction dedup l with
  | case1 b rest ih => simp [ih]
  | case2 a' b rest _ ih => simp [ih]
  | case3 => rfl

/-- Dropping the adjacent repeats of a sorted list leaves it strictly increasing. -/
theorem pairwise_dedup {l : List String} (h : l.Pairwise (· ≤ ·)) :
    (dedup l).Pairwise (· < ·) := by
  fun_induction dedup l with
  | case1 b rest ih => exact ih (List.pairwise_cons.1 h).2
  | case2 a b rest hab ih =>
    obtain ⟨ha, hrest⟩ := List.pairwise_cons.1 h
    refine List.pairwise_cons.2 ⟨fun x hx => ?_, ih hrest⟩
    -- `a` is below `b`, which is at most every later member.
    have hlt : a < b := lt_of_le_of_ne (ha b List.mem_cons_self) hab
    rcases List.mem_cons.1 (mem_dedup.1 hx) with rfl | hx
    · exact hlt
    · exact lt_of_lt_of_le hlt ((List.pairwise_cons.1 hrest).1 x hx)
  | case3 l hl =>
    -- A list with no two members.
    match l, hl with
    | [], _ => simp
    | [_], _ => simp
    | a :: b :: rest, hl => exact absurd rfl (hl a b rest)

/-! ## The candidates -/

theorem isPrefixOf_iff_exists (w name : String) :
    w.isPrefixOf name = true ↔ ∃ r, name = w ++ r := by
  simp only [String.isPrefixOf, String.startsWith_string_iff]
  constructor
  · rintro ⟨t, ht⟩
    exact ⟨String.ofList t, by rw [← String.toList_inj, String.toList_append, String.toList_ofList, ht]⟩
  · rintro ⟨r, rfl⟩
    simp [String.toList_append]

theorem toList_drop_length_append (w r : String) : (w ++ r).toList.drop w.length = r.toList := by
  rw [String.toList_append, ← String.length_toList, List.drop_left]

/-- A name gives the rest `r` exactly when it is the word followed by `r`, and `r` is not
    empty. -/
theorem rest_eq_some_iff (w name r : String) :
    (if w.isPrefixOf name && name ≠ w then some (String.ofList (name.toList.drop w.length))
      else none) = some r ↔ r ≠ "" ∧ name = w ++ r := by
  constructor
  · intro h
    split at h
    next hc =>
      simp only [Bool.and_eq_true, decide_eq_true_eq] at hc
      obtain ⟨r', rfl⟩ := (isPrefixOf_iff_exists w name).1 hc.1
      rw [toList_drop_length_append, String.ofList_toList, Option.some.injEq] at h
      subst h
      exact ⟨fun hr => hc.2 (by simp [hr]), rfl⟩
    next => cases h
  · rintro ⟨hr, rfl⟩
    -- The word followed by a non-empty rest is a longer name.
    have hne : w ++ r ≠ w := by
      intro h
      have h' := congrArg String.toList h
      rw [String.toList_append] at h'
      exact hr (by simpa using h')
    rw [if_pos (by simp [isPrefixOf_iff_exists w, hne]), toList_drop_length_append,
      String.ofList_toList]

/-- When a word touches the cursor, a candidate is exactly a non-empty text that extends the
    word to a bound name or a primitive word. -/
theorem mem_completions_iff {d : Dictionary} {before w : String} (h : lastWord? before = some w)
    (r : String) :
    r ∈ completions d before ↔ r ≠ "" ∧ ((d.get? (w ++ r)).isSome ∨ w ++ r ∈ primitives) := by
  unfold completions
  rw [h]
  simp only [mem_dedup, List.mem_mergeSort, List.mem_filterMap, rest_eq_some_iff]
  constructor
  · rintro ⟨name, hname, hr, rfl⟩
    refine ⟨hr, ?_⟩
    rcases List.mem_append.1 hname with hd | hp
    · exact .inl ((d.mem_names_iff _).1 hd)
    · exact .inr hp
  · rintro ⟨hr, hd | hp⟩
    · exact ⟨w ++ r, List.mem_append_left _ ((d.mem_names_iff _).2 hd), hr, rfl⟩
    · exact ⟨w ++ r, List.mem_append_right _ hp, hr, rfl⟩

theorem completions_of_lastWord?_eq_none {d : Dictionary} {before : String}
    (h : lastWord? before = none) : completions d before = [] := by
  unfold completions
  rw [h]

/-- The candidates are strictly increasing. -/
theorem pairwise_completions (d : Dictionary) (before : String) :
    (completions d before).Pairwise (· < ·) := by
  unfold completions
  split
  · exact List.Pairwise.nil
  · apply pairwise_dedup
    refine (@List.pairwise_mergeSort String (fun a b => decide (a ≤ b)) ?_ ?_ _).imp
      fun h => of_decide_eq_true h
    · intro a b c hab hbc
      simp only [decide_eq_true_eq] at *
      exact le_trans hab hbc
    · intro a b
      simpa using le_total a b

/-- The completer's answer. For every line, every cursor that falls between two characters of
    it or at its end, and every dictionary, the completer answers from the cursor. When the last
    token before the cursor is a word that ends at the cursor, the candidates are, in byte order
    and each once, exactly the non-empty texts that extend the word to a bound name or a
    primitive word; otherwise there is none. -/
theorem complete_exact (d : Dictionary) (pre post : List Char) :
    ∃ C, complete d (String.ofList (pre ++ post)) (Token.byteLength pre) =
        some (Token.byteLength pre, C) ∧
      (∀ w sp, (Token.scan (String.ofList pre)).getLast? = some ⟨.word w, sp⟩ →
        sp.stop = Token.byteLength pre →
        C.Pairwise (fun a b => a.toUTF8.data.toList < b.toUTF8.data.toList) ∧
        ∀ r, r ∈ C ↔ r ≠ "" ∧ ((d.get? (w ++ r)).isSome ∨ w ++ r ∈ primitives)) ∧
      ((∀ w sp, (Token.scan (String.ofList pre)).getLast? = some ⟨.word w, sp⟩ →
        sp.stop ≠ Token.byteLength pre) → C = []) := by
  refine ⟨completions d (String.ofList pre), by rw [complete, textBefore?_append]; rfl, ?_, ?_⟩
  · intro w sp hlast hstop
    have hw : lastWord? (String.ofList pre) = some w :=
      lastWord?_eq_some_iff.2 ⟨sp, hlast, by rw [hstop, utf8ByteSize_ofList]⟩
    exact ⟨(pairwise_completions d _).imp fun h => (Text.lt_iff_toUTF8_lt _ _).1 h,
      mem_completions_iff hw⟩
  · intro hnone
    apply completions_of_lastWord?_eq_none
    cases hw : lastWord? (String.ofList pre) with
    | none => rfl
    | some w =>
      -- A word that touches the cursor would be the last token.
      obtain ⟨sp, hlast, hstop⟩ := lastWord?_eq_some_iff.1 hw
      exact absurd (by rw [hstop, utf8ByteSize_ofList]) (hnone w sp hlast)

end Console

end Concat
