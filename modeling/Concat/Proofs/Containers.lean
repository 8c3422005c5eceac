import Mathlib.Data.List.AList
import Concat.Machine.Basic
import Concat.Proofs.Completion
import Concat.Proofs.Reaching

/-!
# The machine's containers

The stack, the program and the dictionary each keep a law that the rules of the machine rely
on.

Taking the top `n` trees off a stack gives the last `n` of its trees from the bottom up, in the
order they were pushed, and leaves the others; pushing them back restores the stack. A stack
with fewer trees gives nothing. A rule that takes trees to look at them and finds no match puts
them back so.

Putting trees in front of a program pushes them one at a time, the last one first, so that they
come out in their own order, ahead of what was there. The `expand` rule splices a body so.

A dictionary built by any sequence of definitions binds each name to the tree it was last
defined as: it agrees with the association list in which a new binding replaces the old one
(`AList.insert`). Its bindings are listed by name, each once, strictly increasing in code point
order and so in the byte order of their UTF-8 texts (`Text.lt_iff_toUTF8_lt`).

* `Stack.takeTop?_extend_inverse`: taking the top trees, and pushing them back;
* `Program.prepend_splices_in_order`: the trees put in front come out first, in order;
* `Dictionary.Agrees`: a dictionary sorted by name that binds every name as an association list
  does, kept by every definition (`Agrees.define`, `Agrees.foldl`);
* `Dictionary.define_last_writer_wins`: what a sequence of definitions leaves.
-/

namespace Concat

/-! ## Stacks -/

namespace Stack

/-- A stack with `n` trees gives its last `n` from the bottom up, and the stack of the others. -/
theorem takeTop?_of_le {s : Stack} {n : Nat} (h : n ≤ s.size) :
    s.takeTop? n = some (s.bottomUp.drop (s.size - n), ⟨s.items.drop n⟩) := by
  have hlen : s.items.length = s.size := rfl
  rw [takeTop?, if_pos (hlen ▸ h), bottomUp, List.drop_reverse, hlen, Nat.sub_sub_self h]

/-- The trees left under the top `n` are the first ones from the bottom up. -/
theorem bottomUp_drop {s : Stack} {n : Nat} (h : n ≤ s.size) :
    (Stack.mk (s.items.drop n)).bottomUp = s.bottomUp.take (s.size - n) := by
  have hlen : s.items.length = s.size := rfl
  rw [bottomUp, bottomUp, List.take_reverse, hlen, Nat.sub_sub_self h]

/-- Taking the top `n` trees of a stack that has fewer gives nothing. Otherwise it gives the
    last `n` trees from the bottom up, in the order they were pushed, and leaves the first ones;
    pushing the trees taken back on what is left restores the stack. -/
theorem takeTop?_extend_inverse (s : Stack) (n : Nat) :
    (s.size < n → s.takeTop? n = none) ∧
    (n ≤ s.size → ∃ rest : Stack,
      s.takeTop? n = some (s.bottomUp.drop (s.size - n), rest) ∧
      rest.bottomUp = s.bottomUp.take (s.size - n) ∧
      rest.extend (s.bottomUp.drop (s.size - n)) = s) := by
  refine ⟨(takeTop?_eq_none_iff s n).2, fun h => ?_⟩
  exact ⟨_, takeTop?_of_le h, bottomUp_drop h, extend_takeTop? (takeTop?_of_le h)⟩

end Stack

/-! ## Programs -/

namespace Program

/-- The first tree put in front is the next to come out, and the others stay in front. -/
theorem popFront?_prepend_cons (p : Program) (t : Tree) (ts : List Tree) :
    (p.prepend (t :: ts)).popFront? = some (t, p.prepend ts) := by
  rw [prepend_eq_mk, prepend_eq_mk]
  rfl

/-- The trees that `n` pops from the front give, in the order they come out, and the program
    left after them; nothing when fewer than `n` trees are left. -/
def popFronts? (p : Program) : Nat → Option (List Tree × Program)
  | 0 => some ([], p)
  | n + 1 =>
    match p.popFront? with
    | none => none
    | some (t, q) => (q.popFronts? n).map fun r => (t :: r.1, r.2)

theorem popFronts?_prepend (p : Program) (ts : List Tree) :
    (p.prepend ts).popFronts? ts.length = some (ts, p) := by
  induction ts with
  | nil => rfl
  | cons t ts ih =>
    simp only [List.length_cons, popFronts?, popFront?_prepend_cons, ih, Option.map_some]

theorem peek?_prepend (p : Program) {ts : List Tree} {i : Nat} (h : i < ts.length) :
    (p.prepend ts).peek? i = some ts[i] := by
  rw [peek?, items_prepend, List.getElem?_append_left h, List.getElem?_eq_getElem h]

/-- Trees put in front of a program come before what was there, in their own order: the `i`-th
    of them is at offset `i`, and popping the front as many times gives them all, in order, and
    leaves the program as it was. -/
theorem prepend_splices_in_order (p : Program) (ts : List Tree) :
    (p.prepend ts).items = ts ++ p.items ∧
    (∀ (i : Nat) (h : i < ts.length), (p.prepend ts).peek? i = some ts[i]) ∧
    (p.prepend ts).popFronts? ts.length = some (ts, p) :=
  ⟨items_prepend p ts, fun _ h => peek?_prepend p h, popFronts?_prepend p ts⟩

end Program

/-! ## Dictionaries -/

namespace Dictionary

theorem mem_insertSorted {name : String} {value : Tree} {es : List (String × Tree)}
    {e : String × Tree} (h : e ∈ insertSorted name value es) : e = (name, value) ∨ e ∈ es := by
  fun_induction insertSorted name value es with
  | case1 => exact .inl (List.mem_singleton.1 h)
  | case2 k v rest _ => exact List.mem_cons.1 h
  | case3 v rest _ =>
    rcases List.mem_cons.1 h with h | h
    · exact .inl h
    · exact .inr (List.mem_cons_of_mem _ h)
  | case4 k v rest _ _ ih =>
    rcases List.mem_cons.1 h with rfl | h
    · exact .inr List.mem_cons_self
    · rcases ih h with h | h
      · exact .inl h
      · exact .inr (List.mem_cons_of_mem _ h)

/-- Binding a name in a list sorted by name keeps it sorted. -/
theorem pairwise_insertSorted (name : String) (value : Tree) {es : List (String × Tree)}
    (h : es.Pairwise fun x y => x.1 < y.1) :
    (insertSorted name value es).Pairwise fun x y => x.1 < y.1 := by
  fun_induction insertSorted name value es with
  | case1 => exact List.pairwise_singleton _ _
  | case2 k v rest hlt =>
    -- The new binding goes first: its name is before `k`, which is before the rest.
    refine List.Pairwise.cons (fun e he => ?_) h
    rcases List.mem_cons.1 he with rfl | he
    · exact hlt
    · exact lt_trans hlt (List.rel_of_pairwise_cons h he)
  | case3 v rest _ =>
    -- The new binding takes the place of the one of the same name.
    exact List.Pairwise.cons (fun _ he => List.rel_of_pairwise_cons h he) h.of_cons
  | case4 k v rest hlt hne ih =>
    -- `k` is before the new name, so it stays first.
    have hk : k < name := lt_of_le_of_ne (not_lt.1 hlt) (Ne.symm hne)
    refine List.Pairwise.cons (fun e he => ?_) (ih h.of_cons)
    rcases mem_insertSorted he with rfl | he
    · exact hk
    · exact List.rel_of_pairwise_cons h he

/-- In a list sorted by name, a name has one binding at most: the one `find?` gives. -/
theorem mem_iff_find? {es : List (String × Tree)} (h : es.Pairwise fun x y => x.1 < y.1)
    (n : String) (v : Tree) :
    (n, v) ∈ es ↔ (es.find? fun e => e.1 == n).map (·.2) = some v := by
  induction es with
  | nil => simp
  | cons e es ih =>
    obtain ⟨k, w⟩ := e
    by_cases hk : k = n
    · -- No later binding has the name `k`: their names are all greater.
      subst hk
      have hnot : (k, v) ∉ es := fun hv => lt_irrefl k (List.rel_of_pairwise_cons h hv)
      simp [hnot, eq_comm]
    · simp [hk, Ne.symm hk, ih h.of_cons]

/-- A dictionary *agrees* with an association list when its bindings are sorted by name and it
    binds every name as the association list does. -/
structure Agrees (d : Dictionary) (a : AList fun _ : String => Tree) : Prop where
  sorted : d.entries.Pairwise fun x y => x.1 < y.1
  lookup : ∀ n, d.get? n = a.lookup n

namespace Agrees

variable {d : Dictionary} {a : AList fun _ : String => Tree}

theorem init : Agrees empty ∅ where
  sorted := List.Pairwise.nil
  lookup n := by
    rw [AList.lookup_empty]
    rfl

/-- A definition keeps the agreement, when the association list takes the same binding. -/
theorem define (h : Agrees d a) (n : String) (v : Tree) : Agrees (d.define n v) (a.insert n v) where
  sorted := pairwise_insertSorted n v h.sorted
  lookup m := by
    rw [get?_define]
    by_cases hm : m = n
    · rw [if_pos hm, hm, AList.lookup_insert]
    · rw [if_neg hm, AList.lookup_insert_ne hm, h.lookup]

/-- So does every sequence of definitions. -/
theorem foldl (h : Agrees d a) (defs : List (String × Tree)) :
    Agrees (defs.foldl (fun d e => d.define e.1 e.2) d)
      (defs.foldl (fun a e => a.insert e.1 e.2) a) := by
  induction defs generalizing d a with
  | nil => exact h
  | cons e defs ih => exact ih (h.define e.1 e.2)

theorem names_sorted (h : Agrees d a) : d.names.Pairwise (· < ·) :=
  List.pairwise_map.2 h.sorted

theorem mem_entries (h : Agrees d a) (n : String) (v : Tree) :
    (n, v) ∈ d.entries ↔ a.lookup n = some v := by
  rw [mem_iff_find? h.sorted, ← h.lookup n]
  rfl

theorem contains_iff (h : Agrees d a) (n : String) : d.contains n = true ↔ n ∈ a := by
  rw [← AList.lookup_isSome, ← h.lookup, contains, get?, Option.isSome_map, List.find?_isSome,
    List.any_eq_true]

theorem mem_names (h : Agrees d a) (n : String) : n ∈ d.names ↔ n ∈ a.keys := by
  rw [mem_names_iff, h.lookup, AList.lookup_isSome, AList.mem_keys]

/-- The dictionary binds as many names as the association list: both list each name once. -/
theorem size_eq (h : Agrees d a) : d.size = a.keys.length := by
  have hperm : d.names.Perm a.keys :=
    (List.perm_ext_iff_of_nodup h.names_sorted.nodup a.keys_nodup).2 h.mem_names
  calc d.size = d.names.length := (List.length_map _).symm
    _ = a.keys.length := hperm.length_eq

end Agrees

/-- The dictionary that a sequence of definitions builds from the empty one. -/
def ofDefinitions (defs : List (String × Tree)) : Dictionary :=
  defs.foldl (fun d e => d.define e.1 e.2) empty

/-- The association list that a sequence of definitions leaves: each name with the tree it was
    last defined as. -/
def latest (defs : List (String × Tree)) : AList fun _ : String => Tree :=
  defs.foldl (fun a e => a.insert e.1 e.2) ∅

theorem agrees_ofDefinitions (defs : List (String × Tree)) :
    Agrees (ofDefinitions defs) (latest defs) :=
  Agrees.init.foldl defs

/-- After any sequence of definitions, the dictionary answers as the association list of the
    latest definitions does: a new definition gives back the tree the name was bound to, and
    lookups, membership, the number of names and the set of names agree. Its bindings are sorted
    strictly by name, in code point order and in byte order, one for each name defined, with the
    tree of its latest definition. -/
theorem define_last_writer_wins (defs : List (String × Tree)) :
    (∀ n v, ((ofDefinitions defs).insert n v).1 = (latest defs).lookup n) ∧
    (∀ n, (ofDefinitions defs).get? n = (latest defs).lookup n) ∧
    (∀ n, (ofDefinitions defs).contains n = true ↔ n ∈ latest defs) ∧
    (ofDefinitions defs).size = (latest defs).keys.length ∧
    (∀ n, n ∈ (ofDefinitions defs).names ↔ n ∈ (latest defs).keys) ∧
    (∀ n v, (n, v) ∈ (ofDefinitions defs).entries ↔ (latest defs).lookup n = some v) ∧
    (ofDefinitions defs).names.Pairwise (· < ·) ∧
    (ofDefinitions defs).names.Pairwise
      (fun m n => m.toUTF8.data.toList < n.toUTF8.data.toList) := by
  have h := agrees_ofDefinitions defs
  refine ⟨fun n _ => h.lookup n, h.lookup, h.contains_iff, h.size_eq, h.mem_names, h.mem_entries,
    h.names_sorted, ?_⟩
  exact h.names_sorted.imp fun hlt => (Text.lt_iff_toUTF8_lt _ _).1 hlt

end Dictionary

end Concat
