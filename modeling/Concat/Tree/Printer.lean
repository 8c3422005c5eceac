import Concat.Tree.Basic

/-!
# Writing trees as text

The canonical text of a tree: a symbol is written as its text, and a quotation as `[`, its
items separated by one space, and `]`. A list of trees is written as its trees separated by one
space, so the empty list is the empty text. Stacks, programs and dictionary entries are all
written this way.

The writers append to a text they are given, so that writing a long list copies each piece
once; `Tree.render` and `Tree.renderList` start from the empty text.

* `Tree.render_quotation`: a quotation is its items between brackets;
* `Tree.renderList_cons_cons`: a list of two or more trees has one space after its first tree.
-/

namespace Concat

namespace Tree

mutual

/-- Appends the canonical text of a tree to `out`. -/
def writeTo (out : String) : Tree → String
  | .symbol s => out ++ s
  | .quotation items => (writeListTo (out.push '[') items).push ']'

/-- Appends the canonical text of a list of trees to `out`, one space between two trees. -/
def writeListTo (out : String) : List Tree → String
  | [] => out
  | [t] => writeTo out t
  | t :: ts => writeListTo ((writeTo out t).push ' ') ts

end

/-- The canonical text of a tree. -/
def render (t : Tree) : String := writeTo "" t

/-- The canonical text of a list of trees: their texts with one space between two of them. -/
def renderList (ts : List Tree) : String := writeListTo "" ts

mutual

theorem writeTo_eq (out : String) : (t : Tree) → writeTo out t = out ++ render t
  | .symbol s => by simp [render, writeTo]
  | .quotation items => by
    simp only [render, writeTo]
    rw [writeListTo_eq (out.push '[') items, writeListTo_eq ("".push '[') items]
    simp [String.push_eq_append, String.append_assoc]

theorem writeListTo_eq (out : String) :
    (ts : List Tree) → writeListTo out ts = out ++ renderList ts
  | [] => by simp [renderList, writeListTo]
  | [t] => by
    simp only [renderList, writeListTo]
    rw [writeTo_eq out t]
    rfl
  | t :: u :: ts => by
    simp only [renderList, writeListTo]
    rw [writeListTo_eq ((writeTo out t).push ' ') (u :: ts),
      writeListTo_eq ((writeTo "" t).push ' ') (u :: ts), writeTo_eq out t, writeTo_eq "" t]
    simp [String.push_eq_append, String.append_assoc]

end

@[simp] theorem render_symbol (s : String) : (symbol s).render = s := by
  simp [render, writeTo]

@[simp] theorem render_quotation (items : List Tree) :
    (quotation items).render = "[" ++ renderList items ++ "]" := by
  simp only [render, writeTo]
  rw [writeListTo_eq ("".push '[') items]
  simp [String.push_eq_append, String.append_assoc]

@[simp] theorem renderList_nil : renderList [] = "" := by
  simp [renderList, writeListTo]

@[simp] theorem renderList_singleton (t : Tree) : renderList [t] = t.render := by
  simp [renderList, writeListTo, render]

theorem renderList_cons_cons (t u : Tree) (ts : List Tree) :
    renderList (t :: u :: ts) = t.render ++ " " ++ renderList (u :: ts) := by
  simp only [renderList, writeListTo]
  rw [writeListTo_eq ((writeTo "" t).push ' ') (u :: ts)]
  simp [render, String.push_eq_append]
  rfl

example : renderList [symbol "a", quotation [symbol "b", quotation []], symbol "c"] = "a [b []] c" := by
  decide

end Tree

end Concat
