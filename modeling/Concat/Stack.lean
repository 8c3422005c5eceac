import Concat.Tree.Printer

/-!
# Stacks

The machine keeps its values on a *stack* of trees. The list `items` holds them with the top
first; the stack is written bottom first, so the top is the last tree of its text.

Taking the top `n` trees gives them in the order they were pushed (the top last), and pushing
them back in that order restores the stack. Asking for more trees than there are takes nothing
and leaves the stack as it was.

* `Stack.takeTop?` and `Stack.extend`: take the top trees, and push trees in order;
* `Stack.ofPushes`: the stack that pushing a list of trees in order builds.
-/

namespace Concat

/-- A stack of trees. -/
structure Stack where
  /-- The trees, the top first. -/
  items : List Tree
  deriving DecidableEq, Repr, Inhabited

namespace Stack

/-- The stack with no trees. -/
def empty : Stack := ⟨[]⟩

/-- Puts a tree on top. -/
def push (s : Stack) (t : Tree) : Stack := ⟨t :: s.items⟩

/-- The top tree and the stack under it, or nothing when the stack is empty. -/
def pop? (s : Stack) : Option (Tree × Stack) :=
  match s.items with
  | [] => none
  | t :: rest => some (t, ⟨rest⟩)

/-- The tree `n` places below the top (`0` is the top). -/
def peek? (s : Stack) (n : Nat) : Option Tree := s.items[n]?

/-- How many trees the stack holds. -/
def size (s : Stack) : Nat := s.items.length

/-- Whether the stack holds no tree. -/
def isEmpty (s : Stack) : Bool := s.items.isEmpty

/-- The trees from the bottom up. -/
def bottomUp (s : Stack) : List Tree := s.items.reverse

/-- Pushes the trees of a list, first to last, so that the last one ends on top. -/
def extend (s : Stack) (ts : List Tree) : Stack := ⟨ts.reverse ++ s.items⟩

/-- The stack that pushing the trees of a list, first to last, onto the empty stack builds. -/
def ofPushes (ts : List Tree) : Stack := empty.extend ts

/-- The top `n` trees in the order they were pushed (the top last) and the stack under them;
    nothing when fewer than `n` trees are there. -/
def takeTop? (s : Stack) (n : Nat) : Option (List Tree × Stack) :=
  if n ≤ s.items.length then some ((s.items.take n).reverse, ⟨s.items.drop n⟩) else none

/-- The stack's text: its trees from the bottom up, one space between two of them. -/
def render (s : Stack) : String := Tree.renderList s.bottomUp

/-- Taking the top trees and pushing them back restores the stack. -/
theorem extend_takeTop? {s : Stack} {n : Nat} {ts : List Tree} {rest : Stack}
    (h : s.takeTop? n = some (ts, rest)) : rest.extend ts = s := by
  unfold takeTop? at h
  split at h
  · cases h
    simp [extend]
  · cases h

theorem takeTop?_eq_none_iff (s : Stack) (n : Nat) : s.takeTop? n = none ↔ s.size < n := by
  unfold takeTop? size
  split <;> simp_all

example : (ofPushes [.symbol "a", .symbol "b", .symbol "c"]).render = "a b c" ∧
    (ofPushes [.symbol "a", .symbol "b"]).peek? 0 = some (.symbol "b") := by
  decide

end Stack

end Concat
