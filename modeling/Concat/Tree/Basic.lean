/-!
# Trees

Everything the stack machine handles is a *tree*: a *symbol*, which is a piece of text, or
a *quotation*, which is a list of trees. Programs, stacks and dictionary entries are all made
of trees.

The *depth* of a tree counts how many quotations stand inside one another: a symbol has depth
zero and a quotation has one more than its deepest item (an empty quotation has depth one).
The library never builds a tree deeper than `Tree.nestingLimit`, which is 1024.

* `Tree.decEq`: trees have decidable equality, decided item by item;
* `Tree.depth`: the nesting depth, with `Tree.depthList` over a list of trees.
-/

namespace Concat

/-- A symbol, or a quotation of trees. -/
inductive Tree where
  /-- A word of the program, kept as its text. -/
  | symbol (text : String)
  /-- A list of trees held as one value. -/
  | quotation (items : List Tree)
  deriving Repr, Inhabited

namespace Tree

mutual

/-- Two trees are equal when they are the same symbol, or quotations with equal items. -/
def decEq : (a b : Tree) → Decidable (a = b)
  | .symbol s, .symbol t =>
    if h : s = t then isTrue (h ▸ rfl) else isFalse (fun e => h (Tree.symbol.inj e))
  | .quotation xs, .quotation ys =>
    match decEqList xs ys with
    | isTrue h => isTrue (h ▸ rfl)
    | isFalse h => isFalse (fun e => h (Tree.quotation.inj e))
  | .symbol _, .quotation _ => isFalse (fun e => Tree.noConfusion e)
  | .quotation _, .symbol _ => isFalse (fun e => Tree.noConfusion e)

/-- Two lists of trees are equal when they have equal trees at every place. -/
def decEqList : (xs ys : List Tree) → Decidable (xs = ys)
  | [], [] => isTrue rfl
  | x :: xs, y :: ys =>
    match decEq x y, decEqList xs ys with
    | isTrue h1, isTrue h2 => isTrue (h1 ▸ h2 ▸ rfl)
    | isFalse h, _ => isFalse (fun e => h (List.cons.inj e).1)
    | _, isFalse h => isFalse (fun e => h (List.cons.inj e).2)
  | [], _ :: _ => isFalse (fun e => nomatch e)
  | _ :: _, [] => isFalse (fun e => nomatch e)

end

instance : DecidableEq Tree := decEq

/-- No tree the library builds is deeper than this. -/
def nestingLimit : Nat := 1024

mutual

/-- How many quotations stand inside one another in a tree. -/
def depth : Tree → Nat
  | .symbol _ => 0
  | .quotation items => depthList items + 1

/-- The greatest depth of the trees of a list, zero for the empty list. -/
def depthList : List Tree → Nat
  | [] => 0
  | t :: ts => max (depth t) (depthList ts)

end

@[simp] theorem depth_symbol (s : String) : (symbol s).depth = 0 := by
  simp [depth]

@[simp] theorem depth_quotation (items : List Tree) :
    (quotation items).depth = depthList items + 1 := by
  simp [depth]

@[simp] theorem depthList_nil : depthList [] = 0 := by
  simp [depthList]

@[simp] theorem depthList_cons (t : Tree) (ts : List Tree) :
    depthList (t :: ts) = max t.depth (depthList ts) := by
  simp [depthList]

/-- The text of a symbol; a quotation has none. -/
def text? : Tree → Option String
  | .symbol s => some s
  | .quotation _ => none

/-- Whether a tree is the symbol with the given text. -/
def isWord (t : Tree) (w : String) : Bool :=
  t.text? == some w

example : (quotation [symbol "a", quotation [quotation []]]).depth = 3 := by decide

end Tree

end Concat
