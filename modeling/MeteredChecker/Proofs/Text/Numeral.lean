import Mathlib.Data.List.Basic

/-!
# A number has one numeral

Digits denote a number, and zeros in front of them do not change it.  Without such zeros there is
one way to write a number: digits of which the first is no zero, unless it is all of them, are the
digits of the number that they denote (`IsNumeral.eq_toDigits`).

Digits come one behind the other, and the ones that are there already make a number that is not
zero.  That is the whole argument: a digit more is then a digit more of its numeral, too.
-/

namespace MeteredChecker
namespace Text

/-- Digits, at least one, and no zero in front of others. -/
structure IsNumeral (ds : List Char) : Prop where
  nonempty : ds ≠ []
  digit : ∀ c ∈ ds, c.isDigit = true
  noZeroInFront : ds.head? = some '0' → ds = ['0']

variable {c : Char} {ds : List Char} {n : Nat}

theorem toNat_of_isDigit (hc : c.isDigit = true) : 48 ≤ c.toNat ∧ c.toNat ≤ 57 := by
  simp only [Char.isDigit, Bool.and_eq_true, decide_eq_true_eq] at hc
  exact hc

theorem toDigits_of_isDigit (hc : c.isDigit = true) : Nat.toDigits 10 (c.toNat - 48) = [c] := by
  obtain ⟨hlow, hhigh⟩ := toNat_of_isDigit hc
  have hchar : Nat.digitChar (c.toNat - 48) = c := by
    apply Char.toNat_inj.1
    rw [Nat.toNat_digitChar_of_lt_ten (by omega)]
    omega
  rw [Nat.toDigits_of_lt_base (by omega), hchar]

/-- **A digit more of the number is a digit more of its numeral**, if the number is not zero. -/
theorem toDigits_append (hn : 0 < n) (hds : ∀ c ∈ ds, c.isDigit = true) :
    Nat.toDigits 10 n ++ ds = Nat.toDigits 10 (Nat.ofDigitChars 10 ds n) := by
  induction ds generalizing n with
  | nil => exact List.append_nil _
  | cons c ds ih =>
    obtain ⟨hc, hds⟩ := List.forall_mem_cons.1 hds
    obtain ⟨hlow, hhigh⟩ := toNat_of_isDigit hc
    have hmore : Nat.toDigits 10 n ++ [c] = Nat.toDigits 10 (10 * n + (c.toNat - 48)) := by
      rw [← toDigits_of_isDigit hc]
      exact Nat.toDigits_append_toDigits (by decide) hn (by omega)
    calc
      Nat.toDigits 10 n ++ c :: ds = (Nat.toDigits 10 n ++ [c]) ++ ds := by
        rw [List.append_assoc, List.singleton_append]
      _ = Nat.toDigits 10 (10 * n + (c.toNat - 48)) ++ ds := by rw [hmore]
      _ = Nat.toDigits 10 (Nat.ofDigitChars 10 (c :: ds) n) := by
        rw [Nat.ofDigitChars_cons]
        exact ih (by omega) hds

/-- **Digits without a zero in front are the digits of their number.** -/
theorem IsNumeral.eq_toDigits (h : IsNumeral ds) :
    ds = Nat.toDigits 10 (Nat.ofDigitChars 10 ds 0) := by
  obtain ⟨c, ds, rfl⟩ := List.exists_cons_of_ne_nil h.nonempty
  obtain ⟨hc, hds⟩ := List.forall_mem_cons.1 h.digit
  by_cases hzero : c = '0'
  · rw [h.noZeroInFront (congrArg some hzero)]
    rfl
  · have hpos : 0 < c.toNat - 48 := by
      have hne : c.toNat ≠ '0'.toNat := fun heq => hzero (Char.toNat_inj.1 heq)
      have hlow := (toNat_of_isDigit hc).1
      have hvalue : '0'.toNat = 48 := rfl
      omega
    have hmore := toDigits_append hpos hds
    rw [toDigits_of_isDigit hc, List.singleton_append] at hmore
    rw [Nat.ofDigitChars_cons, Nat.mul_zero, Nat.zero_add]
    exact hmore

/-- Only the numeral of zero begins with a zero. -/
theorem eq_zero_of_head?_toDigits (h : (Nat.toDigits 10 n).head? = some '0') : n = 0 := by
  induction n using Nat.strongRecOn with
  | ind n ih =>
    rw [Nat.toDigits_eq_if (by decide)] at h
    split at h
    · next hlt =>
      have hvalue := Nat.toNat_digitChar_of_lt_ten hlt
      rw [Option.some.inj h] at hvalue
      exact (Nat.add_left_cancel hvalue).symm
    · next hle =>
      rw [List.head?_append_of_ne_nil _ Nat.toDigits_ne_nil] at h
      have hfirst := ih (n / 10) (by omega) h
      omega

theorem isNumeral_toDigits (n : Nat) : IsNumeral (Nat.toDigits 10 n) where
  nonempty := Nat.toDigits_ne_nil
  digit _ := Nat.isDigit_of_mem_toDigits (by decide) (by decide)
  noZeroInFront := by
    intro hzero
    rw [eq_zero_of_head?_toDigits hzero]
    rfl

end Text
end MeteredChecker
