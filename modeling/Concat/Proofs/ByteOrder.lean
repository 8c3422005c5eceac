import Mathlib.Tactic.SplitIfs
import Concat.Tree.Basic

/-!
# Code point order is byte order

Texts are ordered one character after another, by code point. Their UTF-8 bytes, compared one
byte after another, come in the same order. A character is written as the digits of its code
point in base 64 behind a first byte that says how many digits follow, and the first bytes of
longer writings are greater. So the writing of a smaller code point is smaller and is not the
start of the other's writing. A difference between two characters therefore shows at a byte
inside their writings, whatever follows them.

* `Text.utf8EncodeChar_lt`: a smaller character is written with smaller bytes, none of which
  starts the other's writing;
* `Text.lt_iff_toUTF8_lt`: texts are in code point order exactly when their UTF-8 bytes are in
  byte order.
-/

namespace Concat.Text

/-- A smaller character is written with smaller bytes, and its writing does not start the
    writing of the greater one. -/
theorem utf8EncodeChar_lt {a b : Char} (h : a < b) :
    String.utf8EncodeChar a < String.utf8EncodeChar b ∧
      ¬ String.utf8EncodeChar a <+: String.utf8EncodeChar b := by
  have hv : a.val.toNat < b.val.toNat := by simpa [Char.lt_def, UInt32.lt_iff_toNat_lt] using h
  have hb : b.val.toNat < 0x110000 := by
    have := b.valid
    simp only [UInt32.isValidChar, Nat.isValidChar] at this
    omega
  -- The bytes after the first are the code point's digits in base 64; `omega` is told how the
  -- digits of one code point are tied to each other.
  have digits : ∀ v : Nat, v / 64 / 64 = v / 4096 ∧ v / 4096 / 64 = v / 262144 := fun v =>
    ⟨Nat.div_div_eq_div_mul v 64 64, Nat.div_div_eq_div_mul v 4096 64⟩
  have da := digits a.val.toNat
  have db := digits b.val.toNat
  unfold String.utf8EncodeChar
  dsimp only
  -- One case for each length of the two writings; each compares the bytes as numbers.
  split_ifs <;>
    simp only [List.cons_lt_cons_iff, List.cons_prefix_cons, List.nil_lt_cons, List.not_lt_nil,
      List.nil_prefix, List.prefix_nil, UInt8.lt_iff_toNat_lt, ← UInt8.toNat_inj,
      UInt8.toNat_ofNat', Nat.reducePow] <;>
    simp (disch := omega) only [Nat.mod_eq_of_lt] <;> omega

/-- Bytes that differ first where the first has the smaller byte keep their order, whatever
    follows them. -/
theorem append_lt_append_of_diverging {l₁ l₂ : List UInt8} (h : l₁ < l₂) (hp : ¬ l₁ <+: l₂)
    (r₁ r₂ : List UInt8) : l₁ ++ r₁ < l₂ ++ r₂ := by
  induction l₁ generalizing l₂ with
  | nil => exact absurd List.nil_prefix hp
  | cons x xs ih =>
    cases l₂ with
    | nil => exact absurd h (List.not_lt_nil _)
    | cons y ys =>
      rcases List.cons_lt_cons_iff.1 h with hxy | ⟨rfl, hs⟩
      · exact List.cons_lt_cons_iff.2 (.inl hxy)
      · exact List.cons_lt_cons_iff.2
          (.inr ⟨rfl, ih hs fun hp' => hp (List.cons_prefix_cons.2 ⟨rfl, hp'⟩)⟩)

theorem append_lt_append_left_iff (l r₁ r₂ : List UInt8) : l ++ r₁ < l ++ r₂ ↔ r₁ < r₂ := by
  induction l with
  | nil => rfl
  | cons x xs ih => simpa using ih

/-- Characters are in code point order exactly when their UTF-8 bytes are in byte order. -/
theorem flatMap_utf8EncodeChar_lt_iff (s t : List Char) :
    s.flatMap String.utf8EncodeChar < t.flatMap String.utf8EncodeChar ↔ s < t := by
  induction s generalizing t with
  | nil =>
    cases t with
    | nil => simp
    | cons b t =>
      -- Every character is written with at least one byte.
      obtain ⟨x, xs, hx⟩ := List.exists_cons_of_ne_nil (String.utf8EncodeChar_ne_nil (c := b))
      simp [hx]
  | cons a s ih =>
    cases t with
    | nil => simp
    | cons b t =>
      rw [List.flatMap_cons, List.flatMap_cons, List.cons_lt_cons_iff]
      by_cases hab : a < b
      · obtain ⟨hlt, hp⟩ := utf8EncodeChar_lt hab
        exact iff_of_true (append_lt_append_of_diverging hlt hp _ _) (.inl hab)
      · by_cases hba : b < a
        · -- The bytes of `t` come first, so those of `s` do not.
          obtain ⟨hlt, hp⟩ := utf8EncodeChar_lt hba
          refine iff_of_false (List.lt_asymm (append_lt_append_of_diverging hlt hp _ _)) ?_
          rintro (h | ⟨rfl, -⟩)
          · exact hab h
          · exact hab hba
        · obtain rfl : a = b := Std.Trichotomous.trichotomous a b hab hba
          rw [append_lt_append_left_iff, ih]
          simp

/-- Texts are in code point order exactly when their UTF-8 bytes are in byte order. -/
theorem lt_iff_toUTF8_lt (s t : String) : s < t ↔ s.toUTF8.data.toList < t.toUTF8.data.toList := by
  simp only [String.toUTF8_eq_toByteArray, ← String.utf8Encode_toList, List.utf8Encode,
    List.toList_data_toByteArray]
  exact (flatMap_utf8EncodeChar_lt_iff s.toList t.toList).symm

end Concat.Text
