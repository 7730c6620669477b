import MeteredChecker.Binary64.Shortest

/-!
# Doubles as text

Two layouts are in use.  A message that complains about a number shows it with
its point, as `5.0` or `0.001`, as long as the point is close to the digits, and
with an exponent, as `1e21` or `1.5e-7`, otherwise.  A number that becomes an
amount is written out in full, however many zeros that takes, with a point only
if there is something behind it.

The sign of a negative zero shows in both.
-/

namespace MeteredChecker
namespace Binary64

/-- How the digits of a double are laid out. -/
structure Layout where
  /-- The texts without an exponent, by the number of digits before the point. -/
  positional : Int → Bool
  /-- A whole number is written with `.0`. -/
  pointed : Bool
  /-- Where a double goes that is half-way between two candidates. -/
  tie : Tie

/-- The layout of a number in a message: from `0.00001` up to below `1e16`
without an exponent. -/
def Layout.message : Layout := ⟨fun n => -5 < n && n ≤ 16, true, .toEven⟩

/-- The layout of a number that becomes an amount: never an exponent. -/
def Layout.plain : Layout := ⟨fun _ => true, false, .up⟩

/-- The characters of a decimal number in a layout. -/
def Layout.chars (l : Layout) (x : Scientific) : List Char :=
  let ds := Nat.toDigits 10 x.digits
  let point : Int := ds.length + x.exponent
  if l.positional point then
    if 0 ≤ x.exponent then
      ds ++ List.replicate x.exponent.toNat '0' ++ if l.pointed then ['.', '0'] else []
    else if 0 < point then ds.take point.toNat ++ '.' :: ds.drop point.toNat
    else '0' :: '.' :: List.replicate (-point).toNat '0' ++ ds
  else
    let mantissa := match ds with
      | first :: second :: more => first :: '.' :: second :: more
      | ds => ds
    mantissa ++ 'e' :: (toString (point - 1)).toList

/-- The text of a finite double. -/
def Layout.text (l : Layout) (x : Float) : String :=
  let magnitude := magnitude x
  let digits : Scientific :=
    if magnitude.mantissa = 0 then ⟨0, 0⟩ else shortest l.tie magnitude
  String.ofList ((if isNegative x then ['-'] else []) ++ l.chars digits)

end Binary64
end MeteredChecker
