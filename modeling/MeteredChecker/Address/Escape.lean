import MeteredChecker.Text.Hex

/-!
# Percent escapes

An address is written in ASCII.  Whatever else belongs into one is written octet
by octet, each as a percent sign and two hexadecimal digits, capital ones.  Which
characters of ASCII are written that way, too, depends on where in the address
they stand; controls always are.

Reading escapes back is more generous: the digits may be small ones, and a percent
sign that is not followed by two of them stands for itself.
-/

namespace MeteredChecker
namespace Address

/-- An octet as a percent escape. -/
def escapeOctet (b : UInt8) : List Char :=
  ['%', (Text.hexDigit (b.toNat / 16)).toUpper, (Text.hexDigit (b.toNat % 16)).toUpper]

/-- A control character, or one outside ASCII. -/
def isForeign (c : Char) : Bool := c.toNat < 0x20 || 0x7E < c.toNat

/-- A text with escapes for its foreign characters and the ones in `special`. -/
def escape (special s : List Char) : List Char :=
  s.flatMap fun c =>
    if isForeign c || special.contains c then
      (String.utf8EncodeChar c).flatMap escapeOctet
    else [c]

/-- The characters that have to be escaped in a path. -/
def pathSpecial : List Char := [' ', '"', '#', '<', '>', '?', '\x60', '\x7b', '\x7d']

/-- The characters that have to be escaped in the query of an address whose scheme
is special or not. -/
def querySpecial (special : Bool) : List Char :=
  [' ', '"', '#', '<', '>'] ++ if special then ['\''] else []

/-- The characters that have to be escaped in a fragment. -/
def fragmentSpecial : List Char := [' ', '"', '<', '>', '\x60']

/-- The octets that a text with escapes stands for. -/
def unescape : List Char → List UInt8
  | '%' :: a :: b :: s =>
      match Text.hexValue? a, Text.hexValue? b with
      | some m, some n => (m * 16 + n).toUInt8 :: unescape s
      | _, _ => 0x25 :: unescape (a :: b :: s)
  | c :: s => String.utf8EncodeChar c ++ unescape s
  | [] => []

end Address
end MeteredChecker
