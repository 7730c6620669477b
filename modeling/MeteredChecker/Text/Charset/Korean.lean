import MeteredChecker.Text.Charset.Index.Korean
import MeteredChecker.Text.Charset.Stepwise

/-!
# The Korean charset

`EUC-KR` has one row for each first octet from 81 on, and the second octet is any
from 41 on.
-/

namespace MeteredChecker
namespace Text
namespace Korean

open Stepwise

/-- The character with two octets. -/
def syllable? (lead t : UInt8) : Option (List Char) :=
  if within 0x41 0xFE t then
    (Index.korean.char? ((lead.toNat - 0x81) * 190 + (t.toNat - 0x41))).map ([·])
  else none

/-- Takes a character of `EUC-KR` off the front. -/
def nextSyllable (b : UInt8) (s : List UInt8) : List Char × List UInt8 :=
  if b < 0x80 then ([Char.ofNat b.toNat], s)
  else if within 0x81 0xFE b then pair (syllable? b) s
  else ([replacement], s)

/-- The charset `EUC-KR`. -/
def eucKr : Stepwise where
  next := nextSyllable
  length_next_le b s := by
    unfold nextSyllable
    split
    · exact Nat.le_refl _
    · split
      · exact length_pair_le _ _
      · exact Nat.le_refl _

end Korean
end Text
end MeteredChecker
