import Concat.Text.Blank

/-!
# Reading a step limit

A step limit is given as text: `off` or `none` for no limit, or a number of steps, written in
decimal digits with an optional leading `+`, below 2^64. Blanks around the text are ignored.

* `Console.parseLimit`: the limit a text gives, `none` when it gives none (no limit is
  `some none`).
-/

namespace Concat.Console

/-- The largest number a step limit can be, plus one: `2 ^ 64`. -/
def limitBound : Nat := 18446744073709551616

/-- The number that decimal digits stand for, if they are all ASCII digits and there is at
    least one. -/
def digitsValue? (cs : List Char) : Option Nat :=
  if cs.isEmpty || !cs.all Char.isDigit then none
  else some (cs.foldl (fun n c => n * 10 + (c.toNat - '0'.toNat)) 0)

/-- Reads a count of steps: optional `+`, then digits, below `limitBound`. -/
def parseCount? (cs : List Char) : Option Nat :=
  let digits := match cs with
    | '+' :: rest => rest
    | _ => cs
  (digitsValue? digits).filter (· < limitBound)

/-- The limit a text gives: `some none` for no limit, `some (some n)` for a limit of `n` steps,
    and `none` when the text gives no limit at all. -/
def parseLimit (s : String) : Option (Option Nat) :=
  let t := Text.trimBlanks s
  if t = "off" || t = "none" then some none
  else (parseCount? t.toList).map some

example : parseLimit " +5 " = some (some 5) ∧ parseLimit "OFF" = none ∧
    parseLimit "none" = some none ∧ parseLimit "-1" = none := by
  decide

end Concat.Console
