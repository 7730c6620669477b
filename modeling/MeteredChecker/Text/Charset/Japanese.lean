import MeteredChecker.Text.Charset.Index.Jis0208
import MeteredChecker.Text.Charset.Index.Jis0212
import MeteredChecker.Text.Charset.Stepwise

/-!
# Japanese charsets

Three charsets write the same characters.  `Shift_JIS` folds two rows of 94 into one
of 188 and has room left for half-width syllables of one octet.  `EUC-JP` gives
each row its own first octet, and reaches a second set of characters behind the
octet 8F.  `ISO-2022-JP` has no octets above 7F: escape sequences say what the
following octets mean, until the next one.
-/

namespace MeteredChecker
namespace Text
namespace Japanese

open Stepwise

/-- The half-width syllable with a number. -/
def halfWidth (n : Nat) : Char := Char.ofNat (0xFF61 + n)

/-! ## Shift_JIS -/

/-- The number of the character with two octets, if they can belong together. -/
def shiftedNumber? (lead t : UInt8) : Option Nat :=
  if within 0x40 0x7E t || within 0x80 0xFC t then
    let row := lead.toNat - if lead < 0xA0 then 0x81 else 0xC1
    some (row * 188 + (t.toNat - if t < 0x7F then 0x40 else 0x41))
  else none

/-- The character with two octets.  Some numbers are set aside for private use. -/
def shifted? (lead t : UInt8) : Option (List Char) := do
  let n ← shiftedNumber? lead t
  if 8836 ≤ n && n ≤ 10715 then pure [Char.ofNat (0xE000 + (n - 8836))]
  else (Index.jis0208.char? n).map ([·])

/-- Takes a character of `Shift_JIS` off the front. -/
def nextShifted (b : UInt8) (s : List UInt8) : List Char × List UInt8 :=
  if b ≤ 0x80 then ([Char.ofNat b.toNat], s)
  else if within 0xA1 0xDF b then ([halfWidth (b.toNat - 0xA1)], s)
  else if within 0x81 0x9F b || within 0xE0 0xFC b then pair (shifted? b) s
  else ([replacement], s)

/-- The charset `Shift_JIS`. -/
def shiftJis : Stepwise where
  next := nextShifted
  length_next_le b s := by
    unfold nextShifted
    split
    · exact Nat.le_refl _
    · split
      · exact Nat.le_refl _
      · split
        · exact length_pair_le _ _
        · exact Nat.le_refl _

/-! ## EUC-JP -/

/-- The character of an index with two octets. -/
def extended? (index : Index) (lead t : UInt8) : Option (List Char) :=
  if within 0xA1 0xFE lead && within 0xA1 0xFE t then
    (index.char? ((lead.toNat - 0xA1) * 94 + (t.toNat - 0xA1))).map ([·])
  else none

/-- The half-width syllable behind the octet 8E. -/
def extendedHalf? (t : UInt8) : Option (List Char) :=
  if within 0xA1 0xDF t then some [halfWidth (t.toNat - 0xA1)] else none

/-- Takes a character of `EUC-JP` off the front. -/
def nextExtended (b : UInt8) (s : List UInt8) : List Char × List UInt8 :=
  if b < 0x80 then ([Char.ofNat b.toNat], s)
  else if b = 0x8E then pair extendedHalf? s
  else if b = 0x8F then
    match s with
    | t :: rest =>
        if within 0xA1 0xFE t then pair (extended? Index.jis0212 t) rest
        else ([replacement], afterBroken t rest)
    | [] => ([replacement], [])
  else if within 0xA1 0xFE b then pair (extended? Index.jis0208 b) s
  else ([replacement], s)

/-- The charset `EUC-JP`. -/
def eucJp : Stepwise where
  next := nextExtended
  length_next_le b s := by
    unfold nextExtended
    split
    · exact Nat.le_refl _
    · split
      · exact length_pair_le _ _
      · split
        · split
          · split
            · exact Nat.le_succ_of_le (length_pair_le _ _)
            · exact length_afterBroken_le _ _
          · exact Nat.le_refl _
        · split
          · exact length_pair_le _ _
          · exact Nat.le_refl _

/-! ## ISO-2022-JP -/

/-- What octets mean between two escape sequences. -/
inductive Mode where
  | ascii
  /-- As in ASCII, with a yen sign and an overline. -/
  | roman
  | katakana
  /-- Two octets make one character. -/
  | double
  deriving DecidableEq, Repr

/-- The mode that an escape sequence asks for, by its last two octets. -/
def Mode.ofEscape? (a b : UInt8) : Option Mode :=
  if a = 0x28 && b = 0x42 then some .ascii
  else if a = 0x28 && b = 0x4A then some .roman
  else if a = 0x28 && b = 0x49 then some .katakana
  else if a = 0x24 && (b = 0x40 || b = 0x42) then some .double
  else none

/-- The character of an octet by itself. -/
def Mode.single (m : Mode) (b : UInt8) : Char :=
  match m with
  | .katakana => if within 0x21 0x5F b then halfWidth (b.toNat - 0x21) else replacement
  | .roman =>
      if b = 0x5C then '\u00A5'
      else if b = 0x7E then '\u203E'
      else if b < 0x80 && b != 0x0E && b != 0x0F then Char.ofNat b.toNat
      else replacement
  | .ascii =>
      if b < 0x80 && b != 0x0E && b != 0x0F then Char.ofNat b.toNat else replacement
  | .double => replacement

/-- The characters of octets in a mode.  `escaped` says that nothing has come since
the last escape sequence; another one is then broken, though it still counts. -/
def decodeModal (m : Mode) (escaped : Bool) : List UInt8 → List Char
  | [] => []
  | 0x1B :: a :: b :: s =>
      match Mode.ofEscape? a b with
      | some mode => (if escaped then [replacement] else []) ++ decodeModal mode true s
      | none => replacement :: decodeModal m false (a :: b :: s)
  | 0x1B :: s => replacement :: decodeModal m false s
  | b :: s =>
      if m = .double && within 0x21 0x7E b then
        match s with
        | [] => [replacement]
        | t :: rest =>
            if t = 0x1B then replacement :: decodeModal m false (t :: rest)
            else if within 0x21 0x7E t then
              let n := (b.toNat - 0x21) * 94 + (t.toNat - 0x21)
              (Index.jis0208.char? n).getD replacement :: decodeModal m false rest
            else replacement :: decodeModal m false rest
      else m.single b :: decodeModal m false s
  termination_by s => s.length
  decreasing_by all_goals (simp only [List.length_cons]; omega)

end Japanese
end Text
end MeteredChecker
