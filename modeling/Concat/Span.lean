/-!
# Spans

A *span* marks where a token stands in a text: the byte offset of its first byte and the
offset just past its last byte, both counted in the text's UTF-8 encoding. Nothing ties the
two ends together: a span whose end comes before its start is a value like any other, and it
is written the same way.

* `Span.render`: the two offsets with two dots between them, as in `3..7`.
-/

namespace Concat

/-- A range of byte offsets into a text: from `start`, up to but not including `stop`. -/
structure Span where
  /-- The offset of the first byte. -/
  start : Nat
  /-- The offset just past the last byte. -/
  stop : Nat
  deriving DecidableEq, Repr, Inhabited

namespace Span

/-- The span that marks nothing in particular: it starts and stops at offset zero. It stands
    for tokens that were given as bare strings rather than read from a text. -/
def origin : Span := ⟨0, 0⟩

/-- A span is written as its two offsets with two dots between them. -/
def render (s : Span) : String := toString s.start ++ ".." ++ toString s.stop

example : render ⟨3, 7⟩ = "3..7" ∧ render ⟨9, 2⟩ = "9..2" ∧ render origin = "0..0" := by decide

end Span

end Concat
