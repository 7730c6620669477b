/-!
# Decimal amounts

An amount of money is a sign, a mantissa and a scale: the number
`± mantissa / 10 ^ scale`.  The mantissa has 96 bits and the scale is at most
28, and both bounds are part of the type, since every way of making an amount
has to respect them.  The scale is kept as it was written, so `1` and `1.00` are
different amounts that denote the same number; `SameNumber` is the comparison
that forgets the difference.

There is one zero per scale: a zero has no sign.
-/

namespace MeteredChecker

/-- A decimal number of 96 bits with at most 28 places. -/
structure Decimal where
  negative : Bool
  mantissa : Nat
  scale : Nat
  mantissa_lt : mantissa < Nat.pow 2 96
  scale_le : scale ≤ 28
  zero_unsigned : mantissa = 0 → negative = false
  deriving DecidableEq, Repr

namespace Decimal

/-- The amount with a given sign, mantissa and scale, if they are in range.  The
sign of a zero is dropped. -/
def ofParts? (negative : Bool) (mantissa scale : Nat) : Option Decimal :=
  if h : mantissa < Nat.pow 2 96 ∧ scale ≤ 28 then
    some
      { negative := negative && mantissa != 0
        mantissa := mantissa
        scale := scale
        mantissa_lt := h.1
        scale_le := h.2
        zero_unsigned := by intro h0; simp [h0] }
  else none

/-- The whole number `n`, if it fits. -/
def ofInt? (n : Int) : Option Decimal := ofParts? (n < 0) n.natAbs 0

/-- The mantissa with the sign of the amount. -/
def signed (d : Decimal) : Int := if d.negative then -d.mantissa else d.mantissa

/-- The two amounts denote one number.  Both sides of
`a / 10 ^ i = b / 10 ^ j` are multiplied by the two powers. -/
def SameNumber (a b : Decimal) : Prop :=
  a.signed * Int.pow 10 b.scale = b.signed * Int.pow 10 a.scale

instance (a b : Decimal) : Decidable (SameNumber a b) :=
  inferInstanceAs (Decidable (_ = _))

/-- The amount is greater than zero. -/
def IsPositive (d : Decimal) : Prop := 0 < d.signed

instance (d : Decimal) : Decidable d.IsPositive := inferInstanceAs (Decidable (_ < _))

/-- The same mantissa and sign at another scale, if that is in range. -/
def rescale? (d : Decimal) (scale : Nat) : Option Decimal :=
  ofParts? d.negative d.mantissa scale

end Decimal
end MeteredChecker
