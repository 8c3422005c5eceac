/-!
# Padding text to a width

Text set in a column of a given width is padded with spaces: on the left to align it right,
on the right to align it left. The width counts characters (code points). Text that is already
as wide as the column, or wider, is left as it is.

* `Text.alignRight` and `Text.alignLeft`: the text padded to the column's width.
-/

namespace Concat.Text

/-- Spaces on the left of `s` up to `w` characters. -/
def alignRight (w : Nat) (s : String) : String :=
  "".pushn ' ' (w - s.length) ++ s

/-- Spaces on the right of `s` up to `w` characters. -/
def alignLeft (w : Nat) (s : String) : String :=
  s.pushn ' ' (w - s.length)

example : alignRight 6 "cons" = "  cons" ∧ alignLeft 6 "cons" = "cons  " ∧
    alignRight 2 "expand" = "expand" := by
  decide

end Concat.Text
