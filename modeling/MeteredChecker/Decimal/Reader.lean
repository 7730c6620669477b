import MeteredChecker.Decimal.Basic

/-!
# Reading amounts

A plain amount is an optional sign and digits with at most one point; the point
may come first or last as long as there is a digit somewhere, and after the
first digit an underscore may stand anywhere, to group.

## When there are too many digits

The mantissa is gathered digit by digit.  Two things end the gathering early: a
digit that no longer fits into 96 bits, and input left over at the 28th place.
Before the point there is nothing to be done about the first, and the amount is
refused.  After it, *one* further character is looked at: a digit from 5 rounds
the mantissa up, a smaller one or an underscore leaves it, anything else is
refused.  What comes after that character is not read at all.

Rounding up may itself push the mantissa over the edge.  It is then brought back
by giving up one place, or refused if there is none to give up.

## Underscores behind the last place

The first digits are gathered in a word of 64 bits, and the rest in one of 96.
Once the wide word is in use an underscore behind the 28th place is passed over
as anywhere else, so a digit behind it is still taken in.  Such an amount has
more places than there can be, and they are counted modulo 29: with the 29th
place the amount is a whole number again.

## Powers of ten

`readScientific?` reads an amount with an exponent.  A negative exponent adds to
the scale, and the sum is one of 32 bits.  A positive one takes from the scale,
and what is left once that is used up multiplies the mantissa.
-/

namespace MeteredChecker
namespace Decimal

/-- The value of a digit. -/
def digitValue (c : Char) : Nat := c.toNat - '0'.toNat

/-- The mantissa and scale when the mantissa `m` with `places` places is full
and `c` is the first character that was not taken in. -/
def roundBy (m places : Nat) (c : Char) : Option (Nat × Nat) :=
  if c = '_' then some (m, places)
  else if c.isDigit then
    if digitValue c < 5 then some (m, places)
    else if m + 1 < Nat.pow 2 96 then some (m + 1, places)
    else if places = 0 then none
    else some ((m + 5) / 10, places - 1)
  else none

/-- The least mantissa that takes its next digit in the wide word.  The narrow one
would hold somewhat more; it is left while there is room to spare. -/
def wideFrom : Nat := (UInt64.size - 1) / 10 - 255

/-- Gathers the mantissa and the number of places.  `m` is the mantissa so far,
`places` the number of digits since the point, if there was one, and `begun` says
whether there was a digit. -/
def gather (m : Nat) (places : Option Nat) (begun : Bool) : List Char → Option (Nat × Nat)
  | [] => if begun then some (m, places.getD 0) else none
  | c :: s =>
      if c.isDigit then
        let next := m * 10 + digitValue c
        match places with
        | none => if next < Nat.pow 2 96 then gather next none true s else none
        | some k =>
            if next < Nat.pow 2 96 then
              match s with
              | [] => some (next, k + 1)
              | d :: _ =>
                  if k + 1 < 28 || (d == '_' && wideFrom ≤ m) then
                    gather next (some (k + 1)) true s
                  else roundBy next (k + 1) d
            else roundBy m k c
      else if c = '.' then
        match places with
        | none => gather m (some 0) begun s
        | some _ => none
      else if c = '_' then
        if begun then gather m places begun s else none
      else none

/-- Reads a plain amount. -/
def readChars? (s : List Char) : Option Decimal := do
  let (negative, s) := match s with
    | '-' :: s => (true, s)
    | '+' :: s => (false, s)
    | s => (false, s)
  let (m, places) ← gather 0 none false s
  ofParts? negative m (places % 29)

/-- Reads a plain amount. -/
def read? (s : String) : Option Decimal := readChars? s.toList

/-- Reads the size of an exponent: digits, at least one, with an optional plus
in front. -/
def exponent? (s : List Char) : Option Nat :=
  let ds := match s with
    | '+' :: s => s
    | s => s
  if ds.isEmpty || !ds.all Char.isDigit then none
  else
    let n := ds.foldl (fun n c => n * 10 + digitValue c) 0
    if n < UInt32.size then some n else none

/-- The amount times a power of ten.  The scale absorbs what it can; past that
the mantissa grows. -/
def raise? (d : Decimal) (e : Nat) : Option Decimal :=
  if e ≤ d.scale then d.rescale? (d.scale - e)
  else if 28 < e then none
  else ofParts? d.negative (d.mantissa * Nat.pow 10 (e - d.scale)) 0

/-- Reads an amount with an exponent. -/
def readScientific? (s : String) : Option Decimal := do
  let isMark := fun c : Char => c == 'e' || c == 'E'
  let base := s.toList.takeWhile fun c => !isMark c
  let d ← readChars? base
  match s.toList.drop base.length with
  | _ :: '-' :: e => do
      let e ← exponent? e
      d.rescale? ((d.scale + e) % UInt32.size)
  | _ :: e => do
      let e ← exponent? e
      d.raise? e
  | [] => none

end Decimal
end MeteredChecker
