/-!
# Octets as UTF-8

A response body arrives as octets and is shown as text whatever it holds, so
reading it never fails: a sequence that is not UTF-8 becomes the replacement
character U+FFFD.  A setting is different, since half a setting is worse than
none: there a malformed value counts as absent.  Both readings are built on one
function, `scalar`, which takes a single character off the front.

## How much one replacement character stands for

A malformed sequence is replaced *once per longest beginning that could still
have become a character*.  `scalar` therefore reads on only while the octets
seen are the beginning of something: the first octet after the lead has to lie
in the range that the lead allows --- which is what keeps overlong forms,
surrogates and values past U+10FFFF out --- and the ones after it in 80 to BF.
The octet that breaks the sequence is not part of it and is read again as the
beginning of the next one.
-/

namespace MeteredChecker
namespace Text
namespace Utf8

/-- What a leading octet announces: the bits it contributes, and for each octet
that has to follow the range it has to lie in.  An octet that cannot lead has no
announcement. -/
def announce (b : UInt8) : Option (Nat × List (UInt8 × UInt8)) :=
  let n := b.toNat
  if n < 0x80 then some (n, [])
  else if n < 0xC2 then none
  else if n < 0xE0 then some (n - 0xC0, [(0x80, 0xBF)])
  else if n == 0xE0 then some (0, [(0xA0, 0xBF), (0x80, 0xBF)])
  else if n == 0xED then some (0xD, [(0x80, 0x9F), (0x80, 0xBF)])
  else if n < 0xF0 then some (n - 0xE0, [(0x80, 0xBF), (0x80, 0xBF)])
  else if n == 0xF0 then some (0, [(0x90, 0xBF), (0x80, 0xBF), (0x80, 0xBF)])
  else if n < 0xF4 then some (n - 0xF0, [(0x80, 0xBF), (0x80, 0xBF), (0x80, 0xBF)])
  else if n == 0xF4 then some (4, [(0x80, 0x8F), (0x80, 0xBF), (0x80, 0xBF)])
  else none

/-- Reads the octets that have to follow a lead, six bits each.  Stops in front
of the first one that is out of its range. -/
def follow (value : Nat) : List (UInt8 × UInt8) → List UInt8 → Option Nat × List UInt8
  | [], s => (some value, s)
  | _ :: _, [] => (none, [])
  | (lo, hi) :: more, b :: s =>
      if lo ≤ b && b ≤ hi then follow (value * 64 + (b.toNat - 0x80)) more s
      else (none, b :: s)

/-- The character that begins with the octet `b`, or `none` for a sequence that
is not one, and what is left after it. -/
def scalar (b : UInt8) (s : List UInt8) : Option Char × List UInt8 :=
  match announce b with
  | none => (none, s)
  | some (value, ranges) =>
      let (n, rest) := follow value ranges s
      (n.map Char.ofNat, rest)

theorem length_follow_le (ranges : List (UInt8 × UInt8)) (value : Nat) (s : List UInt8) :
    (follow value ranges s).2.length ≤ s.length := by
  induction ranges generalizing value s with
  | nil => simp [follow]
  | cons r more ih =>
      cases s with
      | nil => simp [follow]
      | cons b s =>
          simp only [follow]
          split
          · exact Nat.le_trans (ih _ _) (by simp)
          · simp

theorem length_scalar_le (b : UInt8) (s : List UInt8) :
    (scalar b s).2.length ≤ s.length := by
  unfold scalar
  split
  · simp
  · exact length_follow_le _ _ _

/-- The characters of a list of octets, with U+FFFD for what is malformed. -/
def decodeLossy : List UInt8 → List Char
  | [] => []
  | b :: s =>
      have : (scalar b s).2.length < s.length + 1 :=
        Nat.lt_succ_of_le (length_scalar_le b s)
      (scalar b s).1.getD '\uFFFD' :: decodeLossy (scalar b s).2
  termination_by s => s.length

/-- The characters of a list of octets, if all of it is UTF-8. -/
def decode? : List UInt8 → Option (List Char)
  | [] => some []
  | b :: s =>
      have : (scalar b s).2.length < s.length + 1 :=
        Nat.lt_succ_of_le (length_scalar_le b s)
      match (scalar b s).1 with
      | none => none
      | some c => (decode? (scalar b s).2).map (c :: ·)
  termination_by s => s.length

end Utf8
end Text
end MeteredChecker
