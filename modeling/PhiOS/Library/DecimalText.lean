import Mathlib.Data.String.Basic
import Mathlib.Data.Nat.Notation
import Mathlib.Tactic.Ring

/-!
# Decimal numerals of a fixed width

Numerals that are filled up with zeros to one width are in the order of the numbers that they write.
Texts made of such fields, with the same separators between them, are in the order of the fields.
-/

set_option autoImplicit false

namespace DecimalText

/-- A digit. -/
def digit (n : ℕ) : Char := Char.ofNat (48 + n)

/-- The numeral of a number, in a width. -/
def numeral : ℕ → ℕ → List Char
  | 0, _ => []
  | width + 1, n => numeral width (n / 10) ++ [digit (n % 10)]

theorem digit_lt_digit {m n : ℕ} (h : m < n) (hn : n < 10) : digit m < digit n := by
  have hall : ∀ n < 10, ∀ m < n, digit m < digit n := by decide
  exact hall n hn m h

@[simp] theorem length_numeral (width n : ℕ) : (numeral width n).length = width := by
  induction width generalizing n with
  | zero => rfl
  | succ width ih => simp [numeral, ih]

/-- What comes first decides. -/
theorem append_lt_append_of_lt {a b c d : List Char} (hlength : a.length = b.length) (h : a < b) :
    a ++ c < b ++ d := by
  induction a generalizing b with
  | nil =>
      have hb : b = [] := List.length_eq_zero_iff.mp hlength.symm
      rw [hb] at h
      exact absurd h (lt_irrefl _)
  | cons x a ih =>
      cases b with
      | nil => simp at hlength
      | cons y b =>
          simp only [List.length_cons, Nat.add_right_cancel_iff] at hlength
          rw [List.cons_append, List.cons_append, List.cons_lt_cons_iff]
          rcases List.cons_lt_cons_iff.mp h with hlt | ⟨heq, hrest⟩
          · exact .inl hlt
          · exact .inr ⟨heq, ih hlength hrest⟩

theorem append_lt_append_of_rest {a c d : List Char} (h : c < d) : a ++ c < a ++ d := by
  induction a with
  | nil => exact h
  | cons x a ih => exact List.cons_lt_cons_iff.mpr (.inr ⟨rfl, ih⟩)

theorem numeral_lt_numeral {width m n : ℕ} (h : m < n) (hn : n < 10 ^ width) :
    numeral width m < numeral width n := by
  induction width generalizing m n with
  | zero =>
      have hzero : n < 1 := hn
      omega
  | succ width ih =>
      have hpower : 10 ^ (width + 1) = 10 * 10 ^ width := by ring
      unfold numeral
      by_cases htens : m / 10 < n / 10
      · have hbound : n / 10 < 10 ^ width := by omega
        exact append_lt_append_of_lt (by simp) (ih htens hbound)
      · have hsame : m / 10 = n / 10 := by omega
        have hones : m % 10 < n % 10 := by omega
        rw [hsame]
        apply append_lt_append_of_rest
        rw [List.cons_lt_cons_iff]
        exact .inl (digit_lt_digit hones (by omega))

theorem field_lt_field {width m n : ℕ} {rest rest' : List Char} (hn : n < 10 ^ width)
    (h : m < n ∨ m = n ∧ rest < rest') : numeral width m ++ rest < numeral width n ++ rest' := by
  rcases h with hlt | ⟨heq, hrest⟩
  · exact append_lt_append_of_lt (by simp) (numeral_lt_numeral hlt hn)
  · rw [heq]
    exact append_lt_append_of_rest hrest

theorem separator_lt {c : Char} {rest rest' : List Char} (h : rest < rest') :
    c :: rest < c :: rest' :=
  List.cons_lt_cons_iff.mpr (.inr ⟨rfl, h⟩)

end DecimalText
