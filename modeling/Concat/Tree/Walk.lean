import Concat.Tree.Basic

/-!
# Measuring depth with a worklist

The machine measures the depth of a tree without recursion, so that a deep tree costs no
stack of the host: it keeps a *worklist* of the subtrees still to visit, each with the level it
sits at, and the greatest depth seen so far. It takes the entry on top of the worklist; a
quotation at level `l` reaches depth `l + 1` and puts its items on the worklist at level
`l + 1`, first to last, so that the last one is visited next. A symbol adds nothing.

The walk ends because every visit takes one tree off the worklist for good: the trees the
worklist holds, counted with everything inside them, become fewer at each visit (`workload`).

* `Tree.walkDepth`: the walk, from a worklist and the greatest depth seen so far;
* `Tree.iterDepth`: the walk from a tree alone, at level zero.
-/

namespace Concat

namespace Tree

mutual

/-- How many trees a tree holds, itself included. -/
def nodes : Tree → Nat
  | .symbol _ => 1
  | .quotation items => nodesList items + 1

/-- How many trees the trees of a list hold. -/
def nodesList : List Tree → Nat
  | [] => 0
  | t :: ts => nodes t + nodesList ts

end

/-- Pushes trees onto a worklist at one level, first to last, so that the last ends on top. -/
def pushAt (level : Nat) : List Tree → List (Tree × Nat) → List (Tree × Nat)
  | [], pending => pending
  | t :: ts, pending => pushAt level ts ((t, level) :: pending)

/-- How many trees a worklist still holds, counting every tree inside its entries. -/
def workload (pending : List (Tree × Nat)) : Nat := pending.foldr (fun p n => p.1.nodes + n) 0

@[simp] theorem workload_cons (t : Tree) (level : Nat) (pending : List (Tree × Nat)) :
    workload ((t, level) :: pending) = t.nodes + workload pending := rfl

theorem workload_pushAt (level : Nat) (ts : List Tree) (pending : List (Tree × Nat)) :
    workload (pushAt level ts pending) = nodesList ts + workload pending := by
  induction ts generalizing pending with
  | nil => simp only [pushAt, nodesList, Nat.zero_add]
  | cons t ts ih =>
    simp only [pushAt, nodesList, ih, workload_cons]
    omega

/-- The worklist walk: `pending` holds the subtrees still to visit with their levels, the next
    one first, and `deepest` is the greatest depth seen so far. -/
def walkDepth : List (Tree × Nat) → Nat → Nat
  | [], deepest => deepest
  | (.symbol _, _) :: pending, deepest => walkDepth pending deepest
  | (.quotation items, level) :: pending, deepest =>
    walkDepth (pushAt (level + 1) items pending) (max deepest (level + 1))
termination_by pending => workload pending
decreasing_by
  · simp only [workload_cons, nodes]
    omega
  · -- The quotation leaves the worklist and its items come in: one tree fewer.
    simp only [workload_pushAt, workload_cons, nodes]
    omega

/-- The depth of a tree as the worklist walk measures it, from the tree at level zero. -/
def iterDepth (t : Tree) : Nat := walkDepth [(t, 0)] 0

end Tree

end Concat
