import MeteredChecker.Text.Basic
import MeteredChecker.Text.Hex

/-!
# Tables of characters

What is known about characters does not follow from anything, it fills tables.  The
long ones are written as rows of words here, in hexadecimal numbers, since a word
such as `300-36F` for a range or `E9:65+301` for an entry takes a fraction of the
room of a term.  A range of one character is just its number, and an entry may have
several numbers behind its colon.
-/

namespace MeteredChecker
namespace Text
namespace Table

/-- The words of rows. -/
def words (rows : List String) : List (List Char) := rows.flatMap fun row => split ' ' row.toList

/-- The number that hexadecimal digits spell. -/
def number (digits : List Char) : Nat := digits.foldl (fun n c => n * 16 + (hexValue? c).getD 0) 0

/-- The numbers in a word, between the copies of `c`. -/
def numbers (c : Char) (word : List Char) : List Nat := (split c word).map number

/-- The ranges in rows. -/
def ranges (rows : List String) : List (Nat × Nat) :=
  (words rows).map fun word =>
    let ends := numbers '-' word
    (ends.headD 0, ends.getLastD 0)

/-- Whether a character is in one of some ranges. -/
def contains (ranges : List (Nat × Nat)) (c : Char) : Bool :=
  ranges.any fun r => r.1 ≤ c.toNat && c.toNat ≤ r.2

/-- The entries in rows, as characters. -/
def entries (rows : List String) : List (Char × List Char) :=
  (words rows).map fun word =>
    match split ':' word with
    | [key, value] => (Char.ofNat (number key), (numbers '+' value).map Char.ofNat)
    | _ => ('\x00', [])

end Table
end Text
end MeteredChecker
