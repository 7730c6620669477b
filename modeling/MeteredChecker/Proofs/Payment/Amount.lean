import MeteredChecker.Payment.Terms
import MeteredChecker.Proofs.Decimal.Cents
import MeteredChecker.Proofs.Text.Numeral

/-!
# How much a payment is for

The payment endpoint is told an amount in one way, units and cents with a point between them, and
an amount has many ways to be written: with a place more or less at the end, or with places that
nobody can pay.  So what is told may depend on the number only, and it does, since the cents are
the whole part of a hundred times the number (`Decimal.cents_eq_floor`).  All else that is said
here of the amount that is told follows from what is known of the whole part of a number: it is
not more than the number, less than one below it, the number itself if that is whole, and larger
numbers have no smaller one.
-/

namespace MeteredChecker
namespace Decimal

variable {a b d : Decimal}

/-- Two amounts are compared as the numbers that they denote. -/
theorem sameNumber_iff : a.SameNumber b ↔ a.value = b.value := by
  rw [SameNumber, value, value, div_eq_div_iff (by positivity) (by positivity)]
  exact_mod_cast Iff.rfl

/-- What is left of an amount that is cut to cents. -/
def cut (d : Decimal) : ℚ := (⌊100 * d.value⌋₊ : ℚ) / 100

theorem cut_le (positive : d.IsPositive) : d.cut ≤ d.value := by
  have hvalue := isPositive_iff.1 positive
  have hfloor := Nat.floor_le (show 0 ≤ 100 * d.value by positivity)
  rw [cut, div_le_iff₀ (by norm_num)]
  linarith

theorem lt_cut_add (d : Decimal) : d.value < d.cut + 1 / 100 := by
  have hfloor := Nat.lt_floor_add_one (100 * d.value)
  rw [cut, ← add_div, lt_div_iff₀ (by norm_num)]
  linarith

/-- Nothing is cut off a whole number of cents. -/
theorem cut_eq {n : ℕ} (whole : d.value = n / 100) : d.cut = d.value := by
  have hcents : 100 * d.value = n := by
    rw [whole]
    ring
  rw [cut, hcents, Nat.floor_natCast, whole]

theorem cut_mono (h : a.value ≤ b.value) : a.cut ≤ b.cut := by
  have hfloor : ⌊100 * a.value⌋₊ ≤ ⌊100 * b.value⌋₊ := Nat.floor_mono (by linarith)
  rw [cut, cut]
  gcongr

/-- A positive amount is told as a numeral and two digits. -/
theorem toCentsChars_of_isPositive (positive : d.IsPositive) :
    d.toCentsChars = Nat.toDigits 10 (d.cents / 100) ++ '.' :: digits 2 (d.cents % 100) := by
  have hpadding : 1 - (Nat.toDigits 10 (d.cents / 100)).length = 0 :=
    Nat.sub_eq_zero_of_le Nat.length_toDigits_pos
  rw [toCentsChars, signChars, negative_eq_false_of_isPositive positive, if_neg Bool.false_ne_true,
    List.nil_append, digits, hpadding, List.replicate_zero, List.nil_append]

/-- **How an amount is told depends on its number only.** -/
theorem toCents_eq_of_sameNumber (ha : a.IsPositive) (hb : b.IsPositive) (h : a.SameNumber b) :
    a.toCents = b.toCents := by
  have hcents : a.cents = b.cents := by
    rw [cents_eq_floor (negative_eq_false_of_isPositive ha),
      cents_eq_floor (negative_eq_false_of_isPositive hb), sameNumber_iff.1 h]
  rw [toCents, toCents, toCentsChars_of_isPositive ha, toCentsChars_of_isPositive hb, hcents]

end Decimal

/-- **A payment is for the amount cut to cents.**

The text of a positive amount is a numeral, which has no zeros in front that it does not need, a
point and two digits.  The number that it denotes is not more than the amount, and less than a
cent below it; it is the amount if that is a whole number of cents.  Amounts that denote one
number have one text, however many places they are written with, and the text of a larger amount
never denotes a smaller number. -/
theorem amount_is_told_in_cents {t : Payment.Terms} (positive : t.amount.IsPositive) :
    (∃ units places, t.amountParam.toList = units ++ '.' :: places ∧ Text.IsNumeral units ∧
      places.length = 2 ∧ ∀ c ∈ places, c.isDigit = true) ∧
    ∃ told, Decimal.numeral? t.amountParam.toList = some told ∧
      told ≤ t.amount.value ∧ t.amount.value < told + 1 / 100 ∧
      (∀ n : ℕ, t.amount.value = n / 100 → told = t.amount.value) ∧
      ∀ other : Payment.Terms, other.amount.IsPositive →
        (t.amount.SameNumber other.amount → other.amountParam = t.amountParam) ∧
        ∃ toldOther, Decimal.numeral? other.amountParam.toList = some toldOther ∧
          (t.amount.value ≤ other.amount.value → told ≤ toldOther) := by
  have htold {t : Payment.Terms} (positive : t.amount.IsPositive) :
      Decimal.numeral? t.amountParam.toList = some t.amount.cut := by
    rw [Payment.Terms.amountParam, Decimal.toCents, String.toList_ofList]
    exact Decimal.numeral?_toCentsChars (Decimal.negative_eq_false_of_isPositive positive)
  refine ⟨⟨_, Decimal.digits 2 (t.amount.cents % 100), ?_,
    Text.isNumeral_toDigits (t.amount.cents / 100), ?_, ?_⟩,
    _, htold positive, Decimal.cut_le positive, t.amount.lt_cut_add, fun n => Decimal.cut_eq, ?_⟩
  · rw [Payment.Terms.amountParam, Decimal.toCents, String.toList_ofList]
    exact Decimal.toCentsChars_of_isPositive positive
  · exact Decimal.length_digits (by decide) (Nat.mod_lt _ (by decide))
  · exact fun c => Decimal.isDigit_of_mem_digits
  · intro other hother
    exact ⟨fun h => (Decimal.toCents_eq_of_sameNumber positive hother h).symm, _, htold hother,
      Decimal.cut_mono⟩

/-- Almost a unit is told as ninety-nine cents, with whatever zeros it is written. -/
theorem almost_a_unit_is_told_in_cents :
    ∃ (t other : Payment.Terms) (told : ℚ), t.amount.toText = "0.999" ∧
      other.amount.toText = "0.99900" ∧ t.amount.IsPositive ∧ other.amount.IsPositive ∧
      t.amountParam = "0.99" ∧ other.amountParam = t.amountParam ∧
      Decimal.numeral? t.amountParam.toList = some told ∧
      told ≤ t.amount.value ∧ t.amount.value < told + 1 / 100 := by
  let terms (mantissa scale : Nat) (hm : mantissa < Nat.pow 2 96) (hs : scale ≤ 28) :
      Payment.Terms := ⟨none, "/pay", ⟨false, mantissa, scale, hm, hs, fun _ => rfl⟩⟩
  let t := terms 999 3 (by decide) (by decide)
  let other := terms 99900 5 (by decide) (by decide)
  have positive : t.amount.IsPositive := by decide
  have positiveOther : other.amount.IsPositive := by decide
  obtain ⟨-, told, htold, hle, hlt, -, hothers⟩ := amount_is_told_in_cents positive
  obtain ⟨hsame, -⟩ := hothers other positiveOther
  exact ⟨t, other, told, by decide +kernel, by decide +kernel, positive, positiveOther,
    by decide +kernel, hsame (by decide), htold, hle, hlt⟩

end MeteredChecker
