/-!
# Octets as UTF-16

A body that announces itself by a byte-order mark as UTF-16 is read in units of
two octets.  Reading never fails: a surrogate without its partner becomes the
replacement character, and so does whatever is pending at the end --- a high
surrogate, an odd octet, or both together as *one* replacement character.
-/

namespace MeteredChecker
namespace Text
namespace Utf16

/-- Which octet of a unit comes first. -/
inductive Order where
  | bigEndian
  | littleEndian
  deriving DecidableEq, Repr

/-- The unit that two octets in a row make. -/
def Order.unit (o : Order) (a b : UInt8) : Nat :=
  match o with
  | .bigEndian => a.toNat * 256 + b.toNat
  | .littleEndian => b.toNat * 256 + a.toNat

/-- The characters of a list of octets.  `high` is a high surrogate that has been
read and still waits for its partner. -/
def decodeFrom (o : Order) (high : Option Nat) : List UInt8 → List Char
  | [] => if high.isSome then ['\uFFFD'] else []
  | [_] => ['\uFFFD']
  | a :: b :: s =>
      let unit := o.unit a b
      if 0xDC00 ≤ unit && unit ≤ 0xDFFF then
        match high with
        | some h =>
            Char.ofNat (0x10000 + (h - 0xD800) * 0x400 + (unit - 0xDC00)) :: decodeFrom o none s
        | none => '\uFFFD' :: decodeFrom o none s
      else
        let lone := if high.isSome then ['\uFFFD'] else []
        if 0xD800 ≤ unit && unit ≤ 0xDBFF then lone ++ decodeFrom o (some unit) s
        else lone ++ Char.ofNat unit :: decodeFrom o none s

/-- The characters of a list of octets, with U+FFFD for what is malformed. -/
def decodeLossy (o : Order) (s : List UInt8) : List Char := decodeFrom o none s

end Utf16
end Text
end MeteredChecker
