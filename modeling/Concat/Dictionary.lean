import Concat.Tree.Basic

/-!
# Dictionaries

A *dictionary* binds names to trees. Binding a name again replaces its tree: the last binding
wins. The bindings are kept sorted by name, in the order of code points (which is also the
byte order of their UTF-8 texts), each name once, so listing them needs no sorting.

* `Dictionary.define`: binds a name, replacing any earlier tree;
* `Dictionary.get?`: the tree bound to a name;
* `Dictionary.insert`: binds a name and gives back the tree it replaces;
* `Dictionary.entries`: every binding, sorted by name.
-/

namespace Concat

/-- Names bound to trees, sorted by name, each name at most once. -/
structure Dictionary where
  /-- The bindings, sorted by name. -/
  entries : List (String × Tree)
  deriving DecidableEq, Repr, Inhabited

namespace Dictionary

/-- The dictionary that binds no name. -/
def empty : Dictionary := ⟨[]⟩

/-- Binds `name` to `value` in a sorted list of bindings: in its place by name, replacing the
    binding of the same name if there is one. -/
def insertSorted (name : String) (value : Tree) : List (String × Tree) → List (String × Tree)
  | [] => [(name, value)]
  | (k, v) :: rest =>
    if name < k then (name, value) :: (k, v) :: rest
    else if name = k then (name, value) :: rest
    else (k, v) :: insertSorted name value rest

/-- Binds `name` to `value`, replacing any tree bound to it before. -/
def define (d : Dictionary) (name : String) (value : Tree) : Dictionary :=
  ⟨insertSorted name value d.entries⟩

/-- The tree bound to `name`, if any. -/
def get? (d : Dictionary) (name : String) : Option Tree :=
  (d.entries.find? fun e => e.1 == name).map (·.2)

/-- Binds `name` to `value` as `define` does, and gives back the tree it was bound to before, if
    any. -/
def insert (d : Dictionary) (name : String) (value : Tree) : Option Tree × Dictionary :=
  (d.get? name, d.define name value)

/-- Whether `name` is bound. -/
def contains (d : Dictionary) (name : String) : Bool :=
  d.entries.any fun e => e.1 == name

/-- How many names are bound. -/
def size (d : Dictionary) : Nat := d.entries.length

/-- Whether no name is bound. -/
def isEmpty (d : Dictionary) : Bool := d.entries.isEmpty

/-- The bound names, sorted. -/
def names (d : Dictionary) : List String := d.entries.map (·.1)

example : ((empty.define "x" (.symbol "one")).define "a" (.symbol "two")).define "x"
    (.symbol "three") = ⟨[("a", .symbol "two"), ("x", .symbol "three")]⟩ := by
  decide

end Dictionary

end Concat
