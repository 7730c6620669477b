import MeteredChecker.Decimal.Text
import Mathlib.Algebra.Order.Floor.Semifield
import Mathlib.Data.Rat.Floor

/-!
# Amounts cut to cents

An amount denotes a rational number, and so does a text of digits with a point between them.
That an amount is *cut* to two places, and not rounded, is the statement that the number of its
text is the greatest number of cents that is not above the amount (`numeral?_toCentsChars`).

The text is made of two numerals that know nothing of each other, the units and the cents.
Together they are one numeral because the second one has exactly two digits: this is what its
zeros at the front are for (`length_digits`).
-/

namespace MeteredChecker
namespace Decimal

/-- The number that an amount denotes. -/
def value (d : Decimal) : ℚ := d.signed / 10 ^ d.scale

/-- The number that is denoted by digits with a point between them. -/
def numeral? (text : List Char) : Option ℚ :=
  let units := text.takeWhile Char.isDigit
  match text.dropWhile Char.isDigit with
  | '.' :: places =>
      if units ≠ [] ∧ places ≠ [] ∧ places.all Char.isDigit then
        some ((Nat.ofDigitChars 10 (units ++ places) 0 : ℚ) / 10 ^ places.length)
      else none
  | _ => none

variable {d : Decimal}

theorem isPositive_iff : d.IsPositive ↔ 0 < d.value := by
  rw [IsPositive, value, div_pos_iff_of_pos_right (by positivity), Int.cast_pos]

theorem negative_eq_false_of_isPositive (h : d.IsPositive) : d.negative = false := by
  by_contra hnegative
  rw [IsPositive, signed, if_pos (by simpa using hnegative)] at h
  omega

/-! ## Digits -/

section digits

variable {width n : Nat}

theorem isDigit_of_mem_digits {c : Char} (h : c ∈ digits width n) : c.isDigit = true := by
  rcases List.mem_append.1 h with h | h
  · rw [List.eq_of_mem_replicate h]
    rfl
  · exact Nat.isDigit_of_mem_toDigits (by decide) (by decide) h

theorem digits_ne_nil : digits width n ≠ [] :=
  List.append_ne_nil_of_right_ne_nil _ Nat.toDigits_ne_nil

/-- Zeros at the front do not change the number. -/
theorem ofDigitChars_digits : Nat.ofDigitChars 10 (digits width n) 0 = n := by
  rw [digits, Nat.ofDigitChars_append, Nat.ofDigitChars_replicate_zero, Nat.mul_zero,
    Nat.ofDigitChars_ten_toDigits]

theorem length_digits (hwidth : 0 < width) (h : n < 10 ^ width) :
    (digits width n).length = width := by
  have hle : (Nat.toDigits 10 n).length ≤ width :=
    (Nat.length_toDigits_le_iff (by decide) hwidth).2 h
  rw [digits, List.length_append, List.length_replicate]
  omega

end digits

/-! ## Numerals -/

theorem numeral?_append {units places : List Char} (hunits : ∀ c ∈ units, c.isDigit = true)
    (hplaces : ∀ c ∈ places, c.isDigit = true) (hsome : units ≠ []) (hsome' : places ≠ []) :
    numeral? (units ++ '.' :: places) =
      some ((Nat.ofDigitChars 10 (units ++ places) 0 : ℚ) / 10 ^ places.length) := by
  have htake : (units ++ '.' :: places).takeWhile Char.isDigit = units := by
    rw [List.takeWhile_append_of_pos hunits, List.takeWhile_cons_of_neg (by decide),
      List.append_nil]
  have hdrop : (units ++ '.' :: places).dropWhile Char.isDigit = '.' :: places := by
    rw [List.dropWhile_append_of_pos hunits, List.dropWhile_cons_of_neg (by decide)]
  rw [numeral?, htake, hdrop]
  exact if_pos ⟨hsome, hsome', List.all_eq_true.2 hplaces⟩

/-- The cents of an amount are the whole part of a hundred times the amount. -/
theorem cents_eq_floor (h : d.negative = false) : d.cents = ⌊100 * d.value⌋₊ := by
  have hvalue : 100 * d.value = (d.mantissa * 100 : ℕ) / (10 ^ d.scale : ℕ) := by
    rw [value, signed, h]
    push_cast
    ring
  rw [hvalue, Nat.floor_div_eq_div, cents]
  rfl

/-- **The text of an amount denotes the amount cut to cents.** -/
theorem numeral?_toCentsChars (h : d.negative = false) :
    numeral? d.toCentsChars = some ((⌊100 * d.value⌋₊ : ℚ) / 100) := by
  have hcents : (digits 2 (d.cents % 100)).length = 2 :=
    length_digits (by decide) (Nat.mod_lt _ (by decide))
  have hnumber : Nat.ofDigitChars 10 (digits 1 (d.cents / 100) ++ digits 2 (d.cents % 100)) 0 =
      d.cents := by
    rw [Nat.ofDigitChars_append, ofDigitChars_digits, Nat.ofDigitChars_eq_ofDigitChars_zero,
      ofDigitChars_digits, hcents]
    omega
  have hsign : d.signChars = [] := by rw [signChars, h, if_neg Bool.false_ne_true]
  rw [toCentsChars, hsign, List.nil_append, numeral?_append, hnumber, hcents, cents_eq_floor h]
  · norm_num
  · exact fun c => isDigit_of_mem_digits
  · exact fun c => isDigit_of_mem_digits
  · exact digits_ne_nil
  · exact digits_ne_nil

/-- The text of an amount has digits, a point and a sign at most. -/
theorem mem_toCentsChars {c : Char} (h : c ∈ d.toCentsChars) :
    c = '-' ∨ c = '.' ∨ c.isDigit = true := by
  rcases List.mem_append.1 h with h | h
  · rcases List.mem_append.1 h with h | h
    · rw [signChars] at h
      split at h
      · exact .inl (List.mem_singleton.1 h)
      · cases h
    · exact .inr (.inr (isDigit_of_mem_digits h))
  · rcases List.mem_cons.1 h with h | h
    · exact .inr (.inl h)
    · exact .inr (.inr (isDigit_of_mem_digits h))

/-- Something is left of an amount if it is a cent at least. -/
theorem floor_cents_pos_iff : 0 < (⌊100 * d.value⌋₊ : ℚ) / 100 ↔ 1 / 100 ≤ d.value := by
  rw [div_pos_iff_of_pos_right (by norm_num), Nat.cast_pos, Nat.floor_pos,
    div_le_iff₀ (by norm_num), mul_comm]

end Decimal
end MeteredChecker
