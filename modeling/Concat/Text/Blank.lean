/-!
# Blank characters

Words are separated by *blanks*: the characters that the Unicode standard gives the
property `White_Space`. There are twenty-five of them: the five ASCII controls from tab to
carriage return, the space, next line, no-break space, the Ogham space mark, the eleven
typographic spaces from en quad to hair space, the line and paragraph separators, the narrow
no-break space, the medium mathematical space and the ideographic space.

The set is wider than the ASCII blanks (`Char.isWhitespace`) and narrower than some other
notions of space: the information separators `U+001C` to `U+001F` are not blanks, and
neither is the zero-width space `U+200B`.

* `Text.isBlank`: membership in the table;
* `Text.isBlank_of_isWhitespace`: every ASCII blank is a blank;
* `Text.trimBlanks`: a text without the blanks at its ends.
-/

namespace Concat.Text

/-- A character is blank when Unicode gives it the property `White_Space`. -/
def isBlank (c : Char) : Bool :=
  let n := c.toNat
  (0x09 ≤ n && n ≤ 0x0D) || n == 0x20 || n == 0x85 || n == 0xA0 || n == 0x1680 ||
    (0x2000 ≤ n && n ≤ 0x200A) || n == 0x2028 || n == 0x2029 || n == 0x202F ||
    n == 0x205F || n == 0x3000

/-- The ASCII blanks of core are blanks here too. -/
theorem isBlank_of_isWhitespace {c : Char} (h : c.isWhitespace = true) : isBlank c = true := by
  simp only [Char.isWhitespace, Bool.or_eq_true, decide_eq_true_eq] at h
  rcases h with ((h | h) | h) | h <;> subst h <;> decide

/-- The text without the blanks at both ends. -/
def trimBlanks (s : String) : String :=
  String.ofList ((s.toList.dropWhile isBlank).reverse.dropWhile isBlank).reverse

example : isBlank '\u3000' = true ∧ isBlank '\x1C' = false ∧ isBlank '\u200B' = false ∧
    isBlank '\x85' = true ∧ isBlank ' ' = true := by decide

end Concat.Text
