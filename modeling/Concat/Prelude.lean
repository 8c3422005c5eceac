import Concat.Machine.Run
import Concat.Reading

/-!
# The standard words

A handful of words defined in the language itself, loaded by evaluating their definitions from
an empty dictionary and an empty stack. Names starting with `_` are scratch names that the
words bind for their own use.

* `i` runs a quotation: `[p…] i` is `p…`;
* `drop` discards the top value, `quote` wraps it in a quotation, `unquote` unwraps it, `dup`
  copies it, and `swap` exchanges the top two values;
* `=` leaves `true` when the top two values are equal trees and `false` otherwise, and `not`
  exchanges `true` and `false`;
* `if` takes a condition and two quotations, `then` below `else`, and runs `then` when the
  condition is `true`; `and` and `or` are built on it.
-/

namespace Concat.Prelude

/-- The definitions of the standard words, one per line. -/
def source : String :=
  "[_i let _i] i let\n" ++
  "[_drop let] drop let\n" ++
  "[[] cons] quote let\n" ++
  "[snoc drop] unquote let\n" ++
  "[quote quote _dup let _dup unquote _dup unquote] dup let\n" ++
  "[quote quote _swap_y let quote quote _swap_x let _swap_y unquote _swap_x unquote] swap let\n" ++
  "[true false eq] = let\n" ++
  "[true false true eq] not let\n" ++
  "[quote _if_else let quote _if_then let true _if_then _if_else eq i] if let\n" ++
  "[[] [drop false] if] and let\n" ++
  "[[drop true] [] if] or let\n"

/-- The state that loading the standard words leaves. The loading stops well within the
    allowance, so the empty state standing in for a loading that would not is never taken. -/
def loaded : State :=
  ((State.start .empty .empty (Reading.ofText source).trees).evaluate State.allowance).getD
    (State.start .empty .empty [])

end Concat.Prelude
