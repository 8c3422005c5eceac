import Concat.Tree.Printer

/-!
# Programs

The machine works through a *program*: a queue of trees, taken from the front. A rule may put
trees back at the front, in their own order, ahead of what was there.

* `Program.prepend`: the trees put in front one at a time, the last one first, which leaves them
  in their order (`items_prepend`).
-/

namespace Concat

/-- A program: the trees still to be worked through, the next one first. -/
structure Program where
  /-- The trees, the next one first. -/
  items : List Tree
  deriving DecidableEq, Repr, Inhabited

namespace Program

/-- The program with nothing left to do. -/
def empty : Program := ⟨[]⟩

/-- The tree at offset `n` from the front (`0` is the next one). -/
def peek? (p : Program) (n : Nat) : Option Tree := p.items[n]?

/-- The next tree and what follows it, or nothing when the program is empty. -/
def popFront? (p : Program) : Option (Tree × Program) :=
  match p.items with
  | [] => none
  | t :: rest => some (t, ⟨rest⟩)

/-- Puts a tree in front of the program. -/
def pushFront (p : Program) (t : Tree) : Program := ⟨t :: p.items⟩

/-- Puts the trees of a list in front of the program, keeping their order: they are pushed to
    the front one at a time, the last one first. -/
def prepend (p : Program) (ts : List Tree) : Program := ts.reverse.foldl pushFront p

/-- How many trees are left. -/
def size (p : Program) : Nat := p.items.length

/-- Whether nothing is left to do. -/
def isEmpty (p : Program) : Bool := p.items.isEmpty

/-- The program's text: its trees from the front, one space between two of them. -/
def render (p : Program) : String := Tree.renderList p.items

@[simp] theorem items_pushFront (p : Program) (t : Tree) : (p.pushFront t).items = t :: p.items :=
  rfl

/-- Pushing the trees to the front from the last one to the first leaves them in their order. -/
@[simp] theorem items_prepend (p : Program) (ts : List Tree) :
    (p.prepend ts).items = ts ++ p.items := by
  rw [prepend, List.foldl_reverse]
  induction ts with
  | nil => rfl
  | cons t ts ih => rw [List.foldr_cons, items_pushFront, ih, List.cons_append]

theorem prepend_eq_mk (p : Program) (ts : List Tree) : p.prepend ts = ⟨ts ++ p.items⟩ :=
  congrArg Program.mk (items_prepend p ts)

example : (Program.mk [.symbol "c"]).prepend [.symbol "a", .symbol "b"] =
    ⟨[.symbol "a", .symbol "b", .symbol "c"]⟩ := by
  decide

end Program

end Concat
