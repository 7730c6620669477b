import MeteredChecker.Page.Layout
import MeteredChecker.Proofs.Config.Demands
import MeteredChecker.Proofs.Decimal.Cents
import MeteredChecker.Proofs.Service.Wire

/-!
# The amount that is asked for

A configuration is valid if its amount is more than nothing, and what is asked for is not that
amount but what is left of it when it is cut to cents.  So there are amounts that are valid and
of which nothing is left, and they are exactly the ones below a cent
(`asked_amount_is_positive_iff`).  The amount is asked for in two places, in the address of a
payment and on the button that leads there, and it is the same text in both.
-/

namespace MeteredChecker

/-- **What is asked for is the amount cut to cents, and it is more than nothing if and only if
the amount is a cent at least.**

The same text is the end of the address to which the request for a payment goes, and the price
on the button.  It denotes a number, which is the greatest number of cents that is not above the
configured amount. -/
theorem asked_amount_is_positive_iff {config : Config} (valid : config.IsValid) :
    ∃ asked : ℚ, Decimal.numeral? config.payment.amountParam.toList = some asked ∧
      asked = (⌊100 * config.payment.amount.value⌋₊ : ℚ) / 100 ∧
      (∃ place, (config.letter .payment).url = place ++ "?amount=" ++ config.payment.amountParam) ∧
      Page.price config = "Get 100 API calls for $" ++ config.payment.amountParam ++ "!" ∧
      (0 < asked ↔ 1 / 100 ≤ config.payment.amount.value) := by
  obtain ⟨-, -, hpositive⟩ := Config.isValid_iff.1 valid
  have hasked : Decimal.numeral? config.payment.amountParam.toList =
      some ((⌊100 * config.payment.amount.value⌋₊ : ℚ) / 100) := by
    rw [Payment.Terms.amountParam, Decimal.toCents, String.toList_ofList]
    exact Decimal.numeral?_toCentsChars (Decimal.negative_eq_false_of_isPositive hpositive)
  exact ⟨_, hasked, rfl, ⟨_, rfl⟩, rfl, Decimal.floor_cents_pos_iff⟩

/-- Of an amount just below two cents, one is asked for. -/
theorem almost_two_cents_are_asked_as_one :
    ∃ (config : Config) (asked : ℚ), config.IsValid ∧ config.payment.amountParam = "0.01" ∧
      Decimal.numeral? config.payment.amountParam.toList = some asked ∧ 0 < asked := by
  let amount : Decimal := ⟨false, 19, 3, by decide, by decide, by decide⟩
  have valid : { Config.default with
    payment := { Payment.Terms.default with amount := amount } }.IsValid := by decide
  obtain ⟨asked, hasked, -, -, -, hpositive⟩ := asked_amount_is_positive_iff valid
  have hcent : 1 / 100 ≤ amount.value := by
    show (1 : ℚ) / 100 ≤ ((19 : ℤ) : ℚ) / 10 ^ 3
    norm_num
  exact ⟨_, asked, valid, by decide +kernel, hasked, hpositive.2 hcent⟩

/-- **Less than a cent is accepted, and asked for as nothing.**  With an amount of a tenth of a
cent, the button says that the calls are for nothing, and so does the request. -/
theorem tenth_of_cent_is_asked_as_nothing :
    ∃ config : Config, config.IsValid ∧ config.payment.amount.toText = "0.001" ∧
      config.payment.amountParam = "0.00" ∧
      Decimal.numeral? config.payment.amountParam.toList = some 0 ∧
      (config.letter .payment).url = "/paypal/makePayment?amount=0.00" ∧
      Page.price config = "Get 100 API calls for $0.00!" := by
  let amount : Decimal := ⟨false, 1, 3, by decide, by decide, by decide⟩
  refine ⟨{ Config.default with payment := { Payment.Terms.default with amount := amount } }, ?_⟩
  decide +kernel

end MeteredChecker
