import MeteredChecker.Address.Name.Direction
import MeteredChecker.Address.Name.Joining
import MeteredChecker.Address.Name.Punycode
import MeteredChecker.Address.Name.Replacement

/-!
# Names of hosts

A name consists of labels, with points between them.  It is read in three steps.
What makes no difference is removed, and the text brought into its unique form.  Then
it is cut into labels --- only then, because there are other points than the one of
ASCII.  And the labels in disguise, which begin with `xn--`, are undisguised.

A disguise may hide nothing that would not have been kept: what comes out of it has
to be in its unique form already, and not be another disguise.

What is left is checked label by label, and its directions for the name as a whole.
-/

namespace MeteredChecker
namespace Address

/-- The characters that no host may have. -/
def hostForbidden : List Char :=
  ['\x00', '\t', '\n', '\r', ' ', '#', '/', ':', '<', '>', '?', '@', '[', '\\', ']', '^', '|']

namespace Name

/-- Whether a character is one of ASCII. -/
def isAscii (c : Char) : Bool := c.toNat < 0x80

/-- The characters that no label may have. -/
def isForbidden (c : Char) : Bool :=
  c.toNat < 0x20 || c == '%' || c == '.' || c.toNat == 0x7F || hostForbidden.contains c

/-- A text with everything removed that makes no difference, in its unique form. -/
def settled? (s : List Char) : Option (List Char) :=
  (s.mapM become?).map fun parts => composed parts.flatten

/-- The beginning of a label in disguise. -/
def disguise : List Char := ['x', 'n', '-', '-']

/-- How long the disguised part of a label may be. -/
def longestDisguise : Nat := 2000

/-- How long a label with characters outside ASCII may be. -/
def longestLabel : Nat := 1000

/-- The label behind a disguise, from behind the beginning. -/
def undisguised? (s : List Char) : Option (List Char) :=
  if s.all isAscii && s.getLast?.any (· != '-') && s.length ≤ longestDisguise then
    (Punycode.decode? s).filter fun label =>
      settled? label == some label && !disguise.isPrefixOf label
  else none

/-- A label without its disguise, if it has one. -/
def bare? (label : List Char) : Option (List Char) :=
  if disguise.isPrefixOf label then undisguised? (label.drop disguise.length) else some label

/-- Whether a label may be part of a name. -/
def isLabel (label : List Char) : Bool :=
  !label.any isForbidden && !label.head?.any isMark && joinersFit [] label &&
    (label.all isAscii || label.length ≤ longestLabel)

/-- The labels of a name. -/
def labels? (s : List Char) : Option (List (List Char)) := do
  let labels ← (Text.split '.' (← settled? s)).mapM bare?
  if labels.all isLabel && directionsFit labels then pure labels else none

/-- Reads a name: its labels with points between them. -/
def read? (s : List Char) : Option (List Char) := (labels? s).map (['.'].intercalate ·)

end Name
end Address
end MeteredChecker
