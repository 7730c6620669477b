/-!
# The shortest digits of a double

A double is shown by the fewest digits that still read back as the same double,
and of those by the ones nearest to it.  The search is in exact arithmetic.  The
double is `m * 2 ^ q`; the numbers that round to it form an interval around it,
reaching half-way to its neighbours, with the ends included exactly when `m` is
even.  On the grid of multiples of a power of ten, the only candidates are the
two points on either side of the double, and the grids are tried from the
coarsest to the finest.  Seventeen digits always suffice.
-/

namespace MeteredChecker
namespace Binary64

/-- A finite double without its sign, `mantissa * 2 ^ exponent`. -/
structure Magnitude where
  mantissa : Nat
  exponent : Int
  deriving DecidableEq, Repr

/-- The sign bit of a double. -/
def isNegative (x : Float) : Bool := x.toBits.toNat ≥ Nat.pow 2 63

/-- The magnitude of a finite double, read off its bits. -/
def magnitude (x : Float) : Magnitude :=
  let bits : Nat := x.toBits.toNat
  let field : Nat := bits / Nat.pow 2 52 % Nat.pow 2 11
  let fraction : Nat := bits % Nat.pow 2 52
  if field = 0 then ⟨fraction, -1074⟩ else ⟨fraction + Nat.pow 2 52, (field : Int) - 1075⟩

/-- Which way a double goes that lies half-way between two candidates. -/
inductive Tie where
  | toEven
  | up
  deriving DecidableEq, Repr

/-- A decimal number `digits * 10 ^ exponent`. -/
structure Scientific where
  digits : Nat
  exponent : Int
  deriving DecidableEq, Repr

/-- The same number with no zero at the end of its digits. -/
def Scientific.stripped (s : Scientific) : Scientific :=
  if h : s.digits ≠ 0 ∧ s.digits % 10 = 0 then
    Scientific.stripped ⟨s.digits / 10, s.exponent + 1⟩
  else s
  termination_by s.digits
  decreasing_by exact Nat.div_lt_self (Nat.pos_of_ne_zero h.1) (by decide)

/-- A double between the ends of the interval that rounds to it, all three over
one denominator. -/
structure Interval where
  low : Nat
  value : Nat
  high : Nat
  denominator : Nat
  closed : Bool

/-- The interval around a magnitude.  The gap below is half as wide where the
mantissa is the least one of its exponent. -/
def Magnitude.interval (x : Magnitude) : Interval :=
  let unit := Nat.pow 2 (x.exponent - 2).toNat
  let below := if x.mantissa = Nat.pow 2 52 ∧ -1074 < x.exponent then 1 else 2
  { low := (4 * x.mantissa - below) * unit
    value := 4 * x.mantissa * unit
    high := (4 * x.mantissa + 2) * unit
    denominator := Nat.pow 2 (2 - x.exponent).toNat
    closed := x.mantissa % 2 = 0 }

/-- The place of the leading digit: `10 ^ k ≤ value < 10 ^ (k + 1)`. -/
def Interval.leadingPlace (i : Interval) : Int :=
  ((Nat.toDigits 10 (i.value * Nat.pow 10 400 / i.denominator)).length : Int) - 401

/-- The better of the two multiples of `10 ^ place` next to the value, if one of
them lies in the interval. -/
def Interval.candidate? (tie : Tie) (i : Interval) (place : Int) : Option Scientific :=
  let up := Nat.pow 10 (-place).toNat
  let grid := i.denominator * Nat.pow 10 place.toNat
  let inside := fun c : Nat =>
    if i.closed then i.low * up ≤ c * grid && c * grid ≤ i.high * up
    else i.low * up < c * grid && c * grid < i.high * up
  let below := i.value * up / grid
  let excess := 2 * (i.value * up % grid)
  let upper : Bool := match tie with
    | .up => grid ≤ excess
    | .toEven => grid < excess || (grid == excess && below % 2 == 1)
  match inside below, inside (below + 1) with
  | true, true => some ⟨if upper then below + 1 else below, place⟩
  | true, false => some ⟨below, place⟩
  | false, true => some ⟨below + 1, place⟩
  | false, false => none

/-- The fewest digits that read back as the magnitude, and nearest to it. -/
def shortest (tie : Tie) (x : Magnitude) : Scientific :=
  let i := x.interval
  let lead := i.leadingPlace
  let tried := (List.range 17).findSome? fun n : Nat => i.candidate? tie (lead - n)
  (tried.getD ⟨0, 0⟩).stripped

end Binary64
end MeteredChecker
