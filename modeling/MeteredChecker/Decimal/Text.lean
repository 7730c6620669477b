import MeteredChecker.Decimal.Basic

/-!
# Amounts as text

There are two texts of an amount.  `toText` writes exactly what the amount
holds, with as many places as its scale.  `toCents` writes two places, always:
places that are missing are zeros, and places past the second are *cut off*, not
rounded, so that a larger amount never has the smaller text.  Cutting keeps the
sign, also where nothing but zeros is left to be signed.
-/

namespace MeteredChecker
namespace Decimal

/-- The decimal digits of a number, padded with zeros at the front to `width`. -/
def digits (width n : Nat) : List Char :=
  let ds := Nat.toDigits 10 n
  List.replicate (width - ds.length) '0' ++ ds

/-- The sign, as a text puts it. -/
def signChars (d : Decimal) : List Char := if d.negative then ['-'] else []

/-- The characters of an amount, every place that it has. -/
def toChars (d : Decimal) : List Char :=
  let unit := Nat.pow 10 d.scale
  d.signChars ++ digits 1 (d.mantissa / unit) ++
    if d.scale = 0 then [] else '.' :: digits d.scale (d.mantissa % unit)

/-- The amount in hundredths, what is less than one of them cut off. -/
def cents (d : Decimal) : Nat := d.mantissa * 100 / Nat.pow 10 d.scale

/-- The characters of an amount cut to two places. -/
def toCentsChars (d : Decimal) : List Char :=
  d.signChars ++ digits 1 (d.cents / 100) ++ '.' :: digits 2 (d.cents % 100)

/-- An amount, every place that it has. -/
def toText (d : Decimal) : String := String.ofList d.toChars

/-- An amount cut to two places. -/
def toCents (d : Decimal) : String := String.ofList d.toCentsChars

end Decimal
end MeteredChecker
