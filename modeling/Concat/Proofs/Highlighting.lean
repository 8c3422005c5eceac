import Concat.Console.Highlight
import Concat.Proofs.Scanning

/-!
# Highlighting only decorates

The highlighter writes a line once, character by character, and goes back to change a `[` it
has already written when the `]` that closes it turns out to stand next to the cursor. Here it
is shown to give what a reader expects of it, said without the stack of places it keeps.

The brackets of a line are paired last-in first-out (`Console.bracketPairs`): each `]` closes the
latest `[` still open, and a `]` with none open is *stray*. A character is then *shown*
(`Console.shown`) as a red `]` when it is a stray `]`, as a bold blue `[` or a blue `]` when it
belongs to a pair one of whose brackets stands just before the cursor, and as itself otherwise.
The line highlighted is its characters shown one after another (`Console.highlight_decorates`).

The proof follows the highlighter along the line. After some of its characters
(`Console.Written`), what it has written is each of them shown, except that a `[` still open is
written plainly; the stack holds the `[`s still open, and for each the place where its plain
`[` was written. A `]` that closes the `[` on top finds it where the stack says: every `[` under
it was written before it, and only the top one is ever changed. At the end of the line a `[`
still open belongs to no pair, so writing it plainly is showing it.

* `Console.pairFrom_append`: pairing a line is pairing its first part and then the rest, from the
  `[`s the first part leaves open;
* `Console.pairs_of_close`: a `]` closes the `[` on top of the stack, and that pair is the only
  one with either bracket;
* `Console.Written.feed`: one character keeps the highlighter right;
* `Console.highlight_decorates`: the line highlighted is its characters shown.
-/

namespace Concat.Console

open Token (byteLength byteLength_cons byteLength_nil byteLength_append)

/-! ## How brackets pair -/

/-- How the brackets of a line pair up. -/
structure Pairing where
  /-- The byte offsets of each `[` and the `]` that closes it, in the order they close. -/
  pairs : List (Nat × Nat)
  /-- The byte offsets of the `]`s that close nothing. -/
  strays : List Nat
  deriving Repr, Inhabited

/-- Pairs the brackets of `cs`, the first at byte `pos`, given the offsets of the `[`s still
    open (the latest first). -/
def pairFrom : List Char → Nat → List Nat → Pairing
  | [], _, _ => ⟨[], []⟩
  | c :: cs, pos, opens =>
    let next := pos + c.utf8Size
    if c = '[' then pairFrom cs next (pos :: opens)
    else if c = ']' then
      match opens with
      | o :: rest => let p := pairFrom cs next rest; { p with pairs := (o, pos) :: p.pairs }
      | [] => let p := pairFrom cs next []; { p with strays := pos :: p.strays }
    else pairFrom cs next opens

/-- How the brackets of a line pair up: each `]` closes the latest `[` still open. -/
def bracketPairs (line : String) : Pairing :=
  pairFrom line.toList 0 []

/-- The `[`s open after the character `c` at byte `pos`, when `opens` were open before it. -/
def openStep (c : Char) (pos : Nat) (opens : List Nat) : List Nat :=
  if c = '[' then pos :: opens else if c = ']' then opens.tail else opens

/-- The `[`s still open after the characters `cs`, the first at byte `pos`, when `opens` were
    open before them; the latest first. -/
def openStack : List Char → Nat → List Nat → List Nat
  | [], _, opens => opens
  | c :: cs, pos, opens => openStack cs (pos + c.utf8Size) (openStep c pos opens)

/-- How a character of a line is shown, given how its brackets pair and where the cursor is: a
    stray `]` in red; the `[` and the `]` of a pair with a bracket just before the cursor, the
    `[` in bold blue and the `]` in blue; any other character as it is. -/
def shown (p : Pairing) (cursor : Nat) (c : Char) (pos : Nat) : String :=
  if c = ']' ∧ pos ∈ p.strays then red ++ "]" ++ reset
  else if c = '[' ∧ ∃ q ∈ p.pairs, q.1 = pos ∧ (q.1 + 1 = cursor ∨ q.2 + 1 = cursor) then
    boldBlue ++ "[" ++ reset
  else if c = ']' ∧ ∃ q ∈ p.pairs, q.2 = pos ∧ (q.1 + 1 = cursor ∨ q.2 + 1 = cursor) then
    blue ++ "]" ++ reset
  else String.singleton c

/-- The `[`s `opens`, the latest first, stand before the byte `pos`, each after the next. -/
def Descending (pos : Nat) (opens : List Nat) : Prop :=
  opens.Pairwise (· > ·) ∧ ∀ o ∈ opens, o < pos

@[simp] theorem pairFrom_nil (pos : Nat) (opens : List Nat) : pairFrom [] pos opens = ⟨[], []⟩ :=
  rfl

theorem pairFrom_openBracket (cs : List Char) (pos : Nat) (opens : List Nat) :
    pairFrom ('[' :: cs) pos opens = pairFrom cs (pos + 1) (pos :: opens) := by
  cases opens <;> rfl

theorem pairFrom_closeBracket (cs : List Char) (pos o : Nat) (rest : List Nat) :
    pairFrom (']' :: cs) pos (o :: rest) =
      ⟨(o, pos) :: (pairFrom cs (pos + 1) rest).pairs, (pairFrom cs (pos + 1) rest).strays⟩ :=
  rfl

theorem pairFrom_stray (cs : List Char) (pos : Nat) :
    pairFrom (']' :: cs) pos [] =
      ⟨(pairFrom cs (pos + 1) []).pairs, pos :: (pairFrom cs (pos + 1) []).strays⟩ :=
  rfl

theorem pairFrom_other {c : Char} (hopen : c ≠ '[') (hclose : c ≠ ']') (cs : List Char)
    (pos : Nat) (opens : List Nat) :
    pairFrom (c :: cs) pos opens = pairFrom cs (pos + c.utf8Size) opens := by
  cases opens <;> simp [pairFrom, hopen, hclose]

@[simp] theorem openStack_nil (pos : Nat) (opens : List Nat) : openStack [] pos opens = opens :=
  rfl

@[simp] theorem openStack_cons (c : Char) (cs : List Char) (pos : Nat) (opens : List Nat) :
    openStack (c :: cs) pos opens = openStack cs (pos + c.utf8Size) (openStep c pos opens) :=
  rfl

theorem openStack_append (xs ys : List Char) (pos : Nat) (opens : List Nat) :
    openStack (xs ++ ys) pos opens =
      openStack ys (pos + byteLength xs) (openStack xs pos opens) := by
  induction xs generalizing pos opens with
  | nil => rfl
  | cons c xs ih => simp [ih, Nat.add_assoc]

theorem Descending.openStep {pos : Nat} {opens : List Nat} (h : Descending pos opens) (c : Char) :
    Descending (pos + c.utf8Size) (openStep c pos opens) := by
  have hc := Char.utf8Size_pos c
  obtain ⟨hdesc, hlt⟩ := h
  unfold Console.openStep
  split
  · refine ⟨List.pairwise_cons.2 ⟨fun o ho => hlt o ho, hdesc⟩, fun o ho => ?_⟩
    rcases List.mem_cons.1 ho with rfl | ho
    · omega
    · have := hlt o ho
      omega
  · split
    · refine ⟨hdesc.sublist (List.tail_sublist _), fun o ho => ?_⟩
      have := hlt o (List.mem_of_mem_tail ho)
      omega
    · exact ⟨hdesc, fun o ho => by have := hlt o ho; omega⟩

theorem Descending.openStack {pos : Nat} {opens : List Nat} (h : Descending pos opens)
    (cs : List Char) : Descending (pos + byteLength cs) (Console.openStack cs pos opens) := by
  induction cs generalizing pos opens with
  | nil => exact h
  | cons c cs ih => simpa [Nat.add_assoc] using ih (h.openStep c)

/-- A `[` open after some characters was open before them, or is one of them. -/
theorem mem_openStack {cs : List Char} {pos : Nat} {opens : List Nat} {o : Nat}
    (h : o ∈ openStack cs pos opens) : o ∈ opens ∨ pos ≤ o := by
  induction cs generalizing pos opens with
  | nil => exact .inl h
  | cons c cs ih =>
    rcases ih h with h | h
    · unfold openStep at h
      split at h
      · rcases List.mem_cons.1 h with rfl | h
        · exact .inr (Nat.le_refl _)
        · exact .inl h
      · split at h
        · exact .inl (List.mem_of_mem_tail h)
        · exact .inl h
    · exact .inr (by have := Char.utf8Size_pos c; omega)

/-- Pairing a line is pairing its first part, then the rest from the `[`s the first part leaves
    open. -/
theorem pairFrom_append (xs ys : List Char) (pos : Nat) (opens : List Nat) :
    pairFrom (xs ++ ys) pos opens =
      ⟨(pairFrom xs pos opens).pairs ++
          (pairFrom ys (pos + byteLength xs) (openStack xs pos opens)).pairs,
        (pairFrom xs pos opens).strays ++
          (pairFrom ys (pos + byteLength xs) (openStack xs pos opens)).strays⟩ := by
  fun_induction pairFrom xs pos opens with
  | case1 pos opens => rfl
  | case2 cs pos opens next ih =>
    have hnext : next = pos + 1 := rfl
    rw [List.cons_append, pairFrom_openBracket, ← hnext, ih]
    simp [next, openStep, Nat.add_assoc]
  | case3 cs pos o rest next _ p ih =>
    have hnext : next = pos + 1 := rfl
    rw [List.cons_append, pairFrom_closeBracket, ← hnext, ih]
    simp [p, next, openStep, Nat.add_assoc]
  | case4 cs pos next _ p ih =>
    have hnext : next = pos + 1 := rfl
    rw [List.cons_append, pairFrom_stray, ← hnext, ih]
    simp [p, next, openStep, Nat.add_assoc]
  | case5 c cs pos opens next hopen hclose ih =>
    rw [List.cons_append, pairFrom_other hopen hclose, ih]
    simp [next, openStep, hopen, hclose, Nat.add_assoc]

/-- A byte within the characters after `c` is within `c` and those characters. -/
theorem within_cons {c : Char} {cs : List Char} {pos x : Nat}
    (h : pos + c.utf8Size ≤ x ∧ x < pos + c.utf8Size + byteLength cs) :
    pos ≤ x ∧ x < pos + byteLength (c :: cs) := by
  have := Char.utf8Size_pos c
  rw [byteLength_cons]
  omega

theorem within_head (c : Char) (cs : List Char) (pos : Nat) :
    pos ≤ pos ∧ pos < pos + byteLength (c :: cs) := by
  have := Char.utf8Size_pos c
  rw [byteLength_cons]
  omega

/-- Every `]` paired is one of the characters paired. -/
theorem mem_pairs_range {cs : List Char} {pos : Nat} {opens : List Nat} {q : Nat × Nat}
    (h : q ∈ (pairFrom cs pos opens).pairs) : pos ≤ q.2 ∧ q.2 < pos + byteLength cs := by
  fun_induction pairFrom cs pos opens with
  | case1 => simp at h
  | case2 cs pos opens next ih => exact within_cons (ih h)
  | case3 cs pos o rest next _ p ih =>
    rcases List.mem_cons.1 h with rfl | h
    · exact within_head ']' cs pos
    · exact within_cons (ih h)
  | case4 cs pos next _ p ih => exact within_cons (ih h)
  | case5 c cs pos opens next _ _ ih => exact within_cons (ih h)

/-- Every stray `]` is one of the characters paired. -/
theorem mem_strays_range {cs : List Char} {pos : Nat} {opens : List Nat} {e : Nat}
    (h : e ∈ (pairFrom cs pos opens).strays) : pos ≤ e ∧ e < pos + byteLength cs := by
  fun_induction pairFrom cs pos opens with
  | case1 => simp at h
  | case2 cs pos opens next ih => exact within_cons (ih h)
  | case3 cs pos o rest next _ p ih => exact within_cons (ih h)
  | case4 cs pos next _ p ih =>
    rcases List.mem_cons.1 h with rfl | h
    · exact within_head ']' cs _
    · exact within_cons (ih h)
  | case5 c cs pos opens next _ _ ih => exact within_cons (ih h)

/-- Every `[` paired was open before the characters paired, or is one of them. -/
theorem opens_of_mem_pairs {cs : List Char} {pos : Nat} {opens : List Nat} {q : Nat × Nat}
    (h : q ∈ (pairFrom cs pos opens).pairs) : q.1 ∈ opens ∨ pos ≤ q.1 := by
  fun_induction pairFrom cs pos opens with
  | case1 => simp at h
  | case2 cs pos opens next ih =>
    unfold next at ih
    rcases ih h with h | h
    · rcases List.mem_cons.1 h with h | h
      · exact .inr (by omega)
      · exact .inl h
    · exact .inr (by omega)
  | case3 cs pos o rest next _ p ih =>
    rcases List.mem_cons.1 h with rfl | h
    · exact .inl List.mem_cons_self
    · rcases ih h with h | h
      · exact .inl (List.mem_cons_of_mem _ h)
      · exact .inr (by omega)
  | case4 cs pos next _ p ih =>
    rcases ih h with h | h
    · simp at h
    · exact .inr (by omega)
  | case5 c cs pos opens next _ _ ih =>
    rcases ih h with h | h
    · exact .inl h
    · exact .inr (by omega)

/-- A `[` still open after the characters paired is in no pair of them. -/
theorem not_mem_pairs_of_mem_openStack {cs : List Char} {pos : Nat} {opens : List Nat} {o : Nat}
    (hd : Descending pos opens) (h : o ∈ openStack cs pos opens) :
    ∀ q ∈ (pairFrom cs pos opens).pairs, q.1 ≠ o := by
  fun_induction pairFrom cs pos opens with
  | case1 => simp
  | case2 cs pos opens next ih => exact ih (hd.openStep '[') (by simpa [openStep] using h)
  | case3 cs pos o' rest next _ p ih =>
    have h' : o ∈ openStack cs next rest := by simpa [openStep] using h
    intro q hq
    rcases List.mem_cons.1 hq with rfl | hq
    · -- The `[` closed here was open above all the others, so it is none of those left open.
      rintro rfl
      obtain ⟨hdesc, hlt⟩ := hd
      rcases mem_openStack h' with h' | h'
      · exact Nat.lt_irrefl _ (List.rel_of_pairwise_cons hdesc h')
      · have := hlt _ List.mem_cons_self
        simp only [next] at h'
        omega
    · exact ih (by simpa [openStep] using hd.openStep ']') h' q hq
  | case4 cs pos next _ p ih =>
    exact ih (by simpa [openStep] using hd.openStep ']') (by simpa [openStep] using h)
  | case5 c cs pos opens next hopen hclose ih =>
    exact ih (by simpa [openStep, hopen, hclose] using hd.openStep c)
      (by simpa [openStep, hopen, hclose] using h)

theorem descending_nil (pos : Nat) : Descending pos [] :=
  ⟨.nil, by simp⟩

theorem descending_openStack (xs : List Char) : Descending (byteLength xs) (openStack xs 0 []) := by
  simpa using (descending_nil 0).openStack xs

/-! ## The pair of a `]` -/

/-- A `]` after the characters `xs` closes the `[` on top of the stack they leave, and that pair
    is the only one with either bracket. -/
theorem pairs_of_close {xs : List Char} (ys : List Char) {o : Nat} {rest : List Nat}
    (h : openStack xs 0 [] = o :: rest) :
    (o, byteLength xs) ∈ (pairFrom (xs ++ ']' :: ys) 0 []).pairs ∧
      byteLength xs ∉ (pairFrom (xs ++ ']' :: ys) 0 []).strays ∧
      ∀ q ∈ (pairFrom (xs ++ ']' :: ys) 0 []).pairs,
        q.1 = o ∨ q.2 = byteLength xs → q = (o, byteLength xs) := by
  have hd := descending_openStack xs
  rw [h] at hd
  rw [pairFrom_append, h, Nat.zero_add, pairFrom_closeBracket]
  refine ⟨by simp, fun hmem => ?_, fun q hq hq' => ?_⟩
  · -- The strays before the `]` stand before it, those after it after it.
    rcases List.mem_append.1 hmem with hmem | hmem
    · have := mem_strays_range hmem
      omega
    · have := mem_strays_range hmem
      omega
  · rcases List.mem_append.1 hq with hq | hq
    · -- A pair before the `]` neither ends at it nor holds the `[` left open.
      have := mem_pairs_range hq
      have hne := not_mem_pairs_of_mem_openStack (descending_nil 0) (h ▸ List.mem_cons_self) q hq
      omega
    · rcases List.mem_cons.1 hq with rfl | hq
      · rfl
      · -- A pair after the `]` ends after it, and its `[` is under `o` or after the `]`.
        have := mem_pairs_range hq
        have hno : q.1 ≠ o := by
          rcases opens_of_mem_pairs hq with hr | hr
          · rintro hq1
            rw [hq1] at hr
            exact Nat.lt_irrefl _ (List.rel_of_pairwise_cons hd.1 hr)
          · have := hd.2 o List.mem_cons_self
            omega
        omega

/-- A `]` after characters that leave no `[` open closes nothing. -/
theorem mem_strays_of_close {xs ys : List Char} (h : openStack xs 0 [] = []) :
    byteLength xs ∈ (pairFrom (xs ++ ']' :: ys) 0 []).strays := by
  rw [pairFrom_append, h, Nat.zero_add, pairFrom_stray]
  simp

/-! ## How a character is shown -/

section Shown

variable {p : Pairing} {cursor : Nat}

theorem shown_stray {pos : Nat} (h : pos ∈ p.strays) : shown p cursor ']' pos = red ++ "]" ++ reset := by
  simp [shown, h]

theorem shown_other {c : Char} (hopen : c ≠ '[') (hclose : c ≠ ']') (pos : Nat) :
    shown p cursor c pos = String.singleton c := by
  simp [shown, hopen, hclose]

theorem shown_unpaired_open {o : Nat} (h : ∀ q ∈ p.pairs, q.1 ≠ o) :
    shown p cursor '[' o = String.singleton '[' := by
  have hno : ¬ ∃ q ∈ p.pairs, q.1 = o ∧ (q.1 + 1 = cursor ∨ q.2 + 1 = cursor) :=
    fun ⟨q, hq, hq1, _⟩ => h q hq hq1
  simp [shown, hno]

section Pair

variable {o pos : Nat} (hpair : (o, pos) ∈ p.pairs)
  (huniq : ∀ q ∈ p.pairs, q.1 = o ∨ q.2 = pos → q = (o, pos))
include hpair huniq

/-- A bracket of a pair that is the only one with either bracket is coloured when a bracket of
    that pair stands just before the cursor. -/
theorem exists_active_iff (side : Nat × Nat → Nat)
    (hat : ∀ q, side q = side (o, pos) → q.1 = o ∨ q.2 = pos) :
    (∃ q ∈ p.pairs, side q = side (o, pos) ∧ (q.1 + 1 = cursor ∨ q.2 + 1 = cursor)) ↔
      (o + 1 = cursor ∨ pos + 1 = cursor) := by
  constructor
  · rintro ⟨q, hq, hside', hact⟩
    obtain rfl := huniq q hq (hat q hside')
    exact hact
  · exact fun hact => ⟨(o, pos), hpair, rfl, hact⟩

theorem shown_paired_open :
    shown p cursor '[' o =
      if o + 1 = cursor ∨ pos + 1 = cursor then boldBlue ++ "[" ++ reset else String.singleton '[' := by
  have hex : (∃ q ∈ p.pairs, q.1 = o ∧ (q.1 + 1 = cursor ∨ q.2 + 1 = cursor)) ↔
      (o + 1 = cursor ∨ pos + 1 = cursor) :=
    exists_active_iff hpair huniq Prod.fst fun q h => .inl h
  simp [shown, hex]

theorem shown_paired_close (hstray : pos ∉ p.strays) :
    shown p cursor ']' pos =
      if o + 1 = cursor ∨ pos + 1 = cursor then blue ++ "]" ++ reset else String.singleton ']' := by
  have hex : (∃ q ∈ p.pairs, q.2 = pos ∧ (q.1 + 1 = cursor ∨ q.2 + 1 = cursor)) ↔
      (o + 1 = cursor ∨ pos + 1 = cursor) :=
    exists_active_iff hpair huniq Prod.snd fun q h => .inr h
  simp [shown, hex, hstray]

end Pair

end Shown

/-! ## Where the characters of a line stand -/

@[simp] theorem charIndices_nil (pos : Nat) : charIndices [] pos = [] :=
  rfl

@[simp] theorem charIndices_cons (c : Char) (cs : List Char) (pos : Nat) :
    charIndices (c :: cs) pos = (c, pos) :: charIndices cs (pos + c.utf8Size) :=
  rfl

theorem charIndices_append (xs ys : List Char) (pos : Nat) :
    charIndices (xs ++ ys) pos = charIndices xs pos ++ charIndices ys (pos + byteLength xs) := by
  induction xs generalizing pos with
  | nil => simp
  | cons c xs ih => simp [ih, Nat.add_assoc]

theorem offset_range {cs : List Char} {pos : Nat} {x : Char × Nat} (h : x ∈ charIndices cs pos) :
    pos ≤ x.2 ∧ x.2 < pos + byteLength cs := by
  induction cs generalizing pos with
  | nil => simp at h
  | cons c cs ih =>
    rcases List.mem_cons.1 h with rfl | h
    · exact within_head c cs pos
    · exact within_cons (ih h)

/-- The offsets of the characters of a line increase. -/
theorem charIndices_sorted (cs : List Char) (pos : Nat) :
    (charIndices cs pos).Pairwise (fun a b => a.2 < b.2) := by
  induction cs generalizing pos with
  | nil => exact .nil
  | cons c cs ih =>
    have hc := Char.utf8Size_pos c
    refine List.pairwise_cons.2 ⟨fun y hy => ?_, ih _⟩
    have := (offset_range hy).1
    simp only
    omega

theorem offsets_around {cs : List Char} {pos : Nat} {pre post : List (Char × Nat)}
    {x : Char × Nat} (h : charIndices cs pos = pre ++ x :: post) :
    (∀ y ∈ pre, y.2 < x.2) ∧ ∀ y ∈ post, x.2 < y.2 := by
  have hs := charIndices_sorted cs pos
  rw [h, List.pairwise_append] at hs
  exact ⟨fun y hy => hs.2.2 y hy x List.mem_cons_self,
    fun y hy => List.rel_of_pairwise_cons hs.2.1 hy⟩

/-! ## The highlighter part way through a line -/

theorem replaceAt_append_cons (A : List Char) (x : Char) (B : List Char) (s : String) :
    replaceAt (A ++ x :: B) A.length s = A ++ s.toList ++ B := by
  simp [replaceAt]

namespace Highlighter

variable (cursor offset : Nat)

theorem feed_openBracket (h : Highlighter) :
    h.feed cursor '[' offset = ⟨h.written ++ ['['], (offset, h.written.length) :: h.opens⟩ := by
  simp [feed]

theorem feed_closeBracket (w : List Char) (o place : Nat) (rest : List (Nat × Nat)) :
    feed cursor ⟨w, (o, place) :: rest⟩ ']' offset =
      if o + 1 = cursor ∨ offset + 1 = cursor then
        ⟨replaceAt (w ++ (blue ++ "]" ++ reset).toList) place (boldBlue ++ "[" ++ reset), rest⟩
      else ⟨w ++ [']'], rest⟩ := by
  simp [feed]

theorem feed_stray (w : List Char) :
    feed cursor ⟨w, []⟩ ']' offset = ⟨w ++ (red ++ "]" ++ reset).toList, []⟩ := by
  simp [feed]

theorem feed_other {c : Char} (hopen : c ≠ '[') (hclose : c ≠ ']') (h : Highlighter) :
    h.feed cursor c offset = ⟨h.written ++ [c], h.opens⟩ := by
  simp [feed, hopen, hclose]

end Highlighter

/-- What the highlighter has written for the character `x.1` at byte `x.2`, when the `[`s at
    the offsets `opens` are still open: such a `[` plainly, any other character shown. -/
def piece (p : Pairing) (cursor : Nat) (opens : List Nat) (x : Char × Nat) : List Char :=
  if x.1 = '[' ∧ x.2 ∈ opens then ['['] else (shown p cursor x.1 x.2).toList

theorem piece_congr {p : Pairing} {cursor : Nat} {T T' : List Nat} {x : Char × Nat}
    (h : x.1 = '[' → (x.2 ∈ T ↔ x.2 ∈ T')) : piece p cursor T x = piece p cursor T' x := by
  unfold piece
  by_cases hc : x.1 = '['
  · simp [hc, h hc]
  · simp [hc]

theorem flatMap_piece_congr (p : Pairing) (cursor : Nat) {T T' : List Nat}
    {l : List (Char × Nat)} (h : ∀ x ∈ l, x.1 = '[' → (x.2 ∈ T ↔ x.2 ∈ T')) :
    l.flatMap (piece p cursor T) = l.flatMap (piece p cursor T') := by
  induction l with
  | nil => rfl
  | cons x l ih =>
    rw [List.flatMap_cons, List.flatMap_cons, piece_congr (h x List.mem_cons_self),
      ih fun y hy => h y (List.mem_cons_of_mem _ hy)]

/-- The highlighter is right after the characters `xs` of `line`: its stack holds the `[`s
    still open, each with the place of the plain `[` written for it, and it has written each
    character shown, a `[` still open plainly. -/
structure Written (line : List Char) (cursor : Nat) (xs : List Char) (h : Highlighter) : Prop where
  stack : h.opens.map Prod.fst = openStack xs 0 []
  text : h.written = (charIndices xs 0).flatMap (piece (pairFrom line 0 []) cursor (openStack xs 0 []))
  places : ∀ o place, (o, place) ∈ h.opens → ∃ pre post,
    charIndices xs 0 = pre ++ ('[', o) :: post ∧
      place = (pre.flatMap (piece (pairFrom line 0 []) cursor (openStack xs 0 []))).length

namespace Written

/-- The highlighter is right before the line. -/
theorem init (line : List Char) (cursor : Nat) : Written line cursor [] ⟨[], []⟩ :=
  ⟨rfl, rfl, by simp⟩

variable {line : List Char} {cursor : Nat}

/-- The place of a `[` stays right after one more character, when the pieces of the characters
    before it do not change. -/
theorem places_snoc {p : Pairing} {T T' : List Nat} {xs : List Char} (c : Char) {o place : Nat}
    (hplace : ∃ pre post, charIndices xs 0 = pre ++ ('[', o) :: post ∧
      place = (pre.flatMap (piece p cursor T)).length)
    (hagree : ∀ x ∈ charIndices xs 0, x.2 < o → x.1 = '[' → (x.2 ∈ T ↔ x.2 ∈ T')) :
    ∃ pre post, charIndices (xs ++ [c]) 0 = pre ++ ('[', o) :: post ∧
      place = (pre.flatMap (piece p cursor T')).length := by
  obtain ⟨pre, post, hidx, rfl⟩ := hplace
  have hbefore := (offsets_around hidx).1
  refine ⟨pre, post ++ [(c, byteLength xs)], by simp [charIndices_append, hidx], ?_⟩
  rw [flatMap_piece_congr p cursor fun x hx =>
    hagree x (hidx ▸ List.mem_append_left _ hx) (hbefore x hx)]

theorem feed_openBracket {xs w : List Char} {opens : List (Nat × Nat)}
    (hw : Written line cursor xs ⟨w, opens⟩) :
    Written line cursor (xs ++ ['[']) ⟨w ++ ['['], (byteLength xs, w.length) :: opens⟩ := by
  obtain ⟨hstack, htext, hplaces⟩ := hw
  dsimp only at hstack htext hplaces
  have hT : openStack (xs ++ ['[']) 0 [] = byteLength xs :: openStack xs 0 [] := by
    simp [openStack_append, openStep]
  have hidx : charIndices (xs ++ ['[']) 0 = charIndices xs 0 ++ [('[', byteLength xs)] := by
    simp [charIndices_append]
  -- Every character so far stands before the new `[`, so its piece stays as it was.
  have hagree : ∀ x ∈ charIndices xs 0,
      x.1 = '[' → (x.2 ∈ byteLength xs :: openStack xs 0 [] ↔ x.2 ∈ openStack xs 0 []) := by
    intro x hx _
    have := (offset_range hx).2
    simp only [Nat.zero_add] at this
    simp [List.mem_cons, Nat.ne_of_lt this]
  have hsame := flatMap_piece_congr (pairFrom line 0 []) cursor hagree
  refine ⟨by simp [hstack, hT], ?_, fun o place hmem => ?_⟩
  · rw [hT, hidx, List.flatMap_append, hsame, ← htext]
    simp [piece]
  · rw [hT]
    rcases List.mem_cons.1 hmem with h | h
    · obtain ⟨rfl, rfl⟩ := Prod.mk.inj h
      exact ⟨charIndices xs 0, [], hidx, by rw [hsame, ← htext]⟩
    · exact places_snoc '[' (hplaces o place h) fun x hx _ hc => (hagree x hx hc).symm

/-- The plain `[` of a bracket still open stands at the place the stack keeps for it. -/
theorem at_place {xs : List Char} {h : Highlighter} {o place : Nat}
    (hw : Written line cursor xs h) (hmem : (o, place) ∈ h.opens) :
    ∃ pre post, charIndices xs 0 = pre ++ ('[', o) :: post ∧
      h.written = pre.flatMap (piece (pairFrom line 0 []) cursor (openStack xs 0 [])) ++
        '[' :: post.flatMap (piece (pairFrom line 0 []) cursor (openStack xs 0 [])) ∧
      place = (pre.flatMap (piece (pairFrom line 0 []) cursor (openStack xs 0 []))).length := by
  obtain ⟨pre, post, hsplit, hplace⟩ := hw.places o place hmem
  have ho : o ∈ openStack xs 0 [] := hw.stack ▸ List.mem_map_of_mem (f := Prod.fst) hmem
  refine ⟨pre, post, hsplit, ?_, hplace⟩
  rw [hw.text, hsplit, List.flatMap_append, List.flatMap_cons]
  simp [piece, ho]

/-- Closing the `[` on top keeps the stack right, and the places of the `[`s under it: what is
    written for the `]` is the caller's. -/
theorem of_close {xs w w' : List Char} {o place : Nat} {rest : List (Nat × Nat)}
    (hw : Written line cursor xs ⟨w, (o, place) :: rest⟩)
    (htext : w' = (charIndices (xs ++ [']']) 0).flatMap
      (piece (pairFrom line 0 []) cursor (rest.map Prod.fst))) :
    Written line cursor (xs ++ [']']) ⟨w', rest⟩ := by
  have hT : openStack xs 0 [] = o :: rest.map Prod.fst := by simpa using hw.stack.symm
  have hT' : openStack (xs ++ [']']) 0 [] = rest.map Prod.fst := by
    simp [openStack_append, openStep, hT]
  have hd := descending_openStack xs
  rw [hT] at hd
  refine ⟨by simp [hT'], by rw [hT', htext], fun o' place' hmem => ?_⟩
  rw [hT']
  -- A `[` under `o` was written before it, and so was every character before that `[`.
  have hlt : o' < o := List.rel_of_pairwise_cons hd.1 (List.mem_map_of_mem (f := Prod.fst) hmem)
  refine places_snoc ']' (hw.places o' place' (List.mem_cons_of_mem _ hmem)) fun x _ hx _ => ?_
  have hne : x.2 ≠ o := by omega
  simp [hT, hne]

theorem feed_closeBracket {xs ys w : List Char} {o place : Nat} {rest : List (Nat × Nat)}
    (hw : Written line cursor xs ⟨w, (o, place) :: rest⟩) (hline : line = xs ++ ']' :: ys) :
    Written line cursor (xs ++ [']'])
      (Highlighter.feed cursor ⟨w, (o, place) :: rest⟩ ']' (byteLength xs)) := by
  have hT : openStack xs 0 [] = o :: rest.map Prod.fst := by simpa using hw.stack.symm
  have hd := descending_openStack xs
  rw [hT] at hd
  obtain ⟨hpair, hnot, huniq⟩ := pairs_of_close ys hT
  rw [← hline] at hpair hnot huniq
  obtain ⟨pre, post, hsplit, hwritten, hplace⟩ := hw.at_place List.mem_cons_self
  dsimp only at hwritten
  obtain ⟨hpre, hpost⟩ := offsets_around hsplit
  -- Closing `o` changes the piece of no other character.
  have hagree : ∀ x ∈ charIndices xs 0, x.2 ≠ o →
      x.1 = '[' → (x.2 ∈ openStack xs 0 [] ↔ x.2 ∈ rest.map Prod.fst) := by
    intro x _ hx _
    simp [hT, hx]
  have hpre' := flatMap_piece_congr (pairFrom line 0 []) cursor
    fun x hx => hagree x (hsplit ▸ List.mem_append_left _ hx) (Nat.ne_of_lt (hpre x hx))
  have hpost' := flatMap_piece_congr (pairFrom line 0 []) cursor
    fun x hx => hagree x (hsplit ▸ List.mem_append_right _ (List.mem_cons_of_mem _ hx))
      (Nat.ne_of_gt (hpost x hx))
  have hoR : o ∉ rest.map Prod.fst := fun h => Nat.lt_irrefl o (List.rel_of_pairwise_cons hd.1 h)
  -- What is to be written: the `[` of `o` and the `]` shown.
  have htarget : (charIndices (xs ++ [']']) 0).flatMap
      (piece (pairFrom line 0 []) cursor (rest.map Prod.fst)) =
      pre.flatMap (piece (pairFrom line 0 []) cursor (openStack xs 0 [])) ++
        (shown (pairFrom line 0 []) cursor '[' o).toList ++
        post.flatMap (piece (pairFrom line 0 []) cursor (openStack xs 0 [])) ++
        (shown (pairFrom line 0 []) cursor ']' (byteLength xs)).toList := by
    rw [charIndices_append, hsplit, List.flatMap_append, List.flatMap_append, List.flatMap_cons,
      hpre', hpost']
    simp [piece, hoR]
  rw [shown_paired_open hpair huniq, shown_paired_close hpair huniq hnot] at htarget
  rw [Highlighter.feed_closeBracket]
  by_cases hact : o + 1 = cursor ∨ byteLength xs + 1 = cursor
  · -- The `[` written plainly at its place is made bold blue, and the `]` goes in blue.
    rw [if_pos hact]
    apply hw.of_close
    rw [htarget, if_pos hact, if_pos hact, hwritten, hplace, List.append_assoc, List.cons_append,
      replaceAt_append_cons]
    simp
  · rw [if_neg hact]
    apply hw.of_close
    rw [htarget, if_neg hact, if_neg hact, hwritten]
    simp

theorem feed_stray {xs ys w : List Char} (hw : Written line cursor xs ⟨w, []⟩)
    (hline : line = xs ++ ']' :: ys) :
    Written line cursor (xs ++ [']']) ⟨w ++ (red ++ "]" ++ reset).toList, []⟩ := by
  obtain ⟨hstack, htext, -⟩ := hw
  dsimp only at hstack htext
  have hT : openStack xs 0 [] = [] := by simpa using hstack.symm
  have hT' : openStack (xs ++ [']']) 0 [] = [] := by simp [openStack_append, openStep, hT]
  subst hline
  refine ⟨by simp [hT'], ?_, by simp⟩
  rw [hT', htext, hT, charIndices_append, List.flatMap_append]
  simp [piece, shown_stray (mem_strays_of_close hT)]

theorem feed_other {xs w : List Char} {opens : List (Nat × Nat)} {c : Char} (hopen : c ≠ '[')
    (hclose : c ≠ ']') (hw : Written line cursor xs ⟨w, opens⟩) :
    Written line cursor (xs ++ [c]) ⟨w ++ [c], opens⟩ := by
  obtain ⟨hstack, htext, hplaces⟩ := hw
  dsimp only at hstack htext hplaces
  have hT : openStack (xs ++ [c]) 0 [] = openStack xs 0 [] := by
    simp [openStack_append, openStep, hopen, hclose]
  refine ⟨by simp [hstack, hT], ?_, fun o place hmem => ?_⟩
  · rw [hT, htext, charIndices_append, List.flatMap_append]
    simp [piece, hopen, shown_other hopen hclose]
  · rw [hT]
    exact places_snoc c (hplaces o place hmem) fun _ _ _ _ => Iff.rfl

/-- One character keeps the highlighter right. -/
theorem feed {xs ys : List Char} {c : Char} {h : Highlighter} (hw : Written line cursor xs h)
    (hline : line = xs ++ c :: ys) :
    Written line cursor (xs ++ [c]) (h.feed cursor c (byteLength xs)) := by
  obtain ⟨w, opens⟩ := h
  by_cases hopen : c = '['
  · subst hopen
    rw [Highlighter.feed_openBracket]
    exact feed_openBracket hw
  by_cases hclose : c = ']'
  · subst hclose
    match opens, hw with
    | (o, place) :: rest, hw => exact feed_closeBracket hw hline
    | [], hw =>
      rw [Highlighter.feed_stray]
      exact feed_stray hw hline
  · rw [Highlighter.feed_other _ _ hopen hclose]
    exact feed_other hopen hclose hw

/-- The rest of the line keeps the highlighter right, up to the end of the line. -/
theorem foldl {xs ys : List Char} {h : Highlighter} (hw : Written line cursor xs h)
    (hline : line = xs ++ ys) :
    Written line cursor line ((charIndices ys (byteLength xs)).foldl
      (fun (h : Highlighter) (c, offset) => h.feed cursor c offset) h) := by
  induction ys generalizing xs h with
  | nil => simpa [hline] using hw
  | cons c ys ih =>
    have := ih (hw.feed hline) (by simp [hline])
    simpa [byteLength_append] using this

end Written

/-- Where no `[` still open is paired, writing such a `[` plainly is showing it. -/
theorem flatMap_piece_of_unpaired {p : Pairing} {cursor : Nat} {T : List Nat}
    (h : ∀ o ∈ T, ∀ q ∈ p.pairs, q.1 ≠ o) (l : List (Char × Nat)) :
    l.flatMap (piece p cursor T) = l.flatMap fun x => (shown p cursor x.1 x.2).toList := by
  induction l with
  | nil => rfl
  | cons x l ih =>
    rw [List.flatMap_cons, List.flatMap_cons, ih]
    congr 1
    unfold piece
    split
    next hx =>
      obtain ⟨c, pos⟩ := x
      obtain ⟨rfl, hpos⟩ := hx
      rw [shown_unpaired_open (h pos hpos), String.toList_singleton]
    next => rfl

theorem join_map (l : List (Char × Nat)) (f : Char × Nat → String) :
    String.join (l.map f) = String.ofList (l.flatMap fun x => (f x).toList) := by
  induction l with
  | nil => simp
  | cons x l ih =>
    rw [List.map_cons, String.join_cons, ih, List.flatMap_cons, String.ofList_append,
      String.ofList_toList]

/-- The line highlighted is its characters shown one after another: a stray `]` in red, the
    brackets of the pair at the cursor in blue, the `[` bold, and every other character as it
    is. -/
theorem highlight_decorates (line : String) (cursor : Nat) :
    highlight line cursor = String.join ((charIndices line.toList 0).map
      fun (c, pos) => shown (bracketPairs line) cursor c pos) := by
  have hw := (Written.init line.toList cursor).foldl (List.nil_append line.toList).symm
  rw [byteLength_nil] at hw
  -- A `[` still open at the end of the line is in no pair, so it is shown plainly.
  rw [highlight, hw.text, join_map, flatMap_piece_of_unpaired
    fun o ho => not_mem_pairs_of_mem_openStack (descending_nil 0) ho]
  rfl

end Concat.Console
