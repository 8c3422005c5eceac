import Concat.Tree.Walk

/-!
# The worklist walk measures depth

The worklist walk of `Tree.walkDepth` finds the depth of a tree as the recursion of
`Tree.depth` defines it: zero for a symbol, and one more than its deepest item (zero when it has
none) for a quotation.

The walk keeps one invariant. What it will return is the greatest of the depth seen so far and
of what each pending entry can still reach: a quotation at level `l` reaches `l` plus its own
depth, a symbol nothing (`Tree.reach`). Taking a quotation off the worklist keeps this number,
since the quotation reaches exactly as far as the level it reaches itself and its items pushed
one level deeper (`Tree.max_reachAll_map`).

* `Tree.walkDepth_eq`: the walk returns the greatest of the depth seen so far and the reach of
  the worklist;
* `Tree.iterDepth_eq_depth`: from a tree alone, it returns the tree's depth.
-/

namespace Concat

namespace Tree

/-- How deep an entry of the worklist reaches: a quotation at level `l` reaches `l` plus its own
    depth; a symbol adds nothing. -/
def reach : Tree × Nat → Nat
  | (.symbol _, _) => 0
  | (.quotation items, level) => level + depthList items + 1

/-- How deep the entries of a worklist reach, zero for the empty one. -/
def reachAll (pending : List (Tree × Nat)) : Nat := pending.foldr (fun p m => max (reach p) m) 0

@[simp] theorem reachAll_nil : reachAll [] = 0 := rfl

@[simp] theorem reachAll_cons (p : Tree × Nat) (pending : List (Tree × Nat)) :
    reachAll (p :: pending) = max (reach p) (reachAll pending) := rfl

/-- A tree at a level reaches that level plus its depth, or only the level when it is a symbol. -/
theorem max_reach (t : Tree) (level : Nat) : max level (reach (t, level)) = level + t.depth := by
  cases t with
  | symbol s => simp [reach]
  | quotation items =>
    simp only [reach, depth_quotation]
    omega

/-- Items pushed at a level reach that level plus their deepest depth. -/
theorem max_reachAll_map (level : Nat) (ts : List Tree) :
    max level (reachAll (ts.map (·, level))) = level + depthList ts := by
  induction ts with
  | nil => simp
  | cons t ts ih =>
    have ht := max_reach t level
    simp only [List.map_cons, reachAll_cons, depthList_cons]
    omega

theorem reachAll_pushAt (level : Nat) (ts : List Tree) (pending : List (Tree × Nat)) :
    reachAll (pushAt level ts pending) = max (reachAll (ts.map (·, level))) (reachAll pending) := by
  induction ts generalizing pending with
  | nil => simp [pushAt]
  | cons t ts ih =>
    simp only [pushAt, ih, List.map_cons, reachAll_cons]
    omega

/-- The walk's invariant: it returns the greatest of the depth seen so far and of how deep the
    pending entries reach. -/
theorem walkDepth_eq (pending : List (Tree × Nat)) (deepest : Nat) :
    walkDepth pending deepest = max deepest (reachAll pending) := by
  fun_induction walkDepth pending deepest with
  | case1 deepest => simp
  | case2 s level pending deepest ih =>
    rw [ih, reachAll_cons, reach, Nat.zero_max]
  | case3 items level pending deepest ih =>
    -- The quotation's own level and its items, one level deeper, reach as far as it does.
    have hitems := max_reachAll_map (level + 1) items
    rw [ih, reachAll_pushAt, reachAll_cons, reach]
    omega

/-- The worklist walk measures the depth of every tree: zero for a symbol, and one more than
    the deepest item, or one for an empty quotation. -/
theorem iterDepth_eq_depth (t : Tree) : t.iterDepth = t.depth := by
  have h := max_reach t 0
  rw [iterDepth, walkDepth_eq, reachAll_cons, reachAll_nil, Nat.max_zero]
  omega

end Tree

end Concat
