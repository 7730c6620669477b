/-!
# Charsets of several octets

In these charsets a character takes one octet or more, and what the first one says
decides how many.  A `Stepwise` charset takes one character off the front at a
time; what is no character becomes U+FFFD, and the step says how much of it is used
up.  Since a step takes at least the first octet, decoding ends.

The rule about what is used up is the same in all of them: an octet that fails to
complete a character is used up with it, unless it is one of ASCII, which is read
again.  So a broken character never hides a quote or a bracket.
-/

namespace MeteredChecker
namespace Text

/-- The character for what is none. -/
def replacement : Char := '\uFFFD'

/-- A charset that is decoded step by step: the characters at the front of some
octets, the first of which is given apart, and the octets left behind them. -/
structure Stepwise where
  next : UInt8 → List UInt8 → List Char × List UInt8
  length_next_le : ∀ b s, (next b s).2.length ≤ s.length

namespace Stepwise

/-- The characters of a list of octets. -/
def decode (d : Stepwise) : List UInt8 → List Char
  | [] => []
  | b :: s =>
      have : (d.next b s).2.length < s.length + 1 := Nat.lt_succ_of_le (d.length_next_le b s)
      (d.next b s).1 ++ d.decode (d.next b s).2
  termination_by s => s.length

/-- An octet lies in a range. -/
def within (lo hi b : UInt8) : Bool := lo ≤ b && b ≤ hi

/-- What is left of a broken character after its last octet. -/
def afterBroken (last : UInt8) (s : List UInt8) : List UInt8 :=
  if last < 0x80 then last :: s else s

/-- The rest of a character of two octets, `found` being what it stands for. -/
def pair (found : UInt8 → Option (List Char)) (s : List UInt8) : List Char × List UInt8 :=
  match s with
  | [] => ([replacement], [])
  | t :: rest =>
      match found t with
      | some cs => (cs, rest)
      | none => ([replacement], afterBroken t rest)

theorem length_afterBroken_le (last : UInt8) (s : List UInt8) :
    (afterBroken last s).length ≤ s.length + 1 := by
  unfold afterBroken
  split <;> simp

theorem length_pair_le (found : UInt8 → Option (List Char)) (s : List UInt8) :
    (pair found s).2.length ≤ s.length := by
  unfold pair
  split
  · simp
  · split
    · simp
    · exact length_afterBroken_le _ _

end Stepwise
end Text
end MeteredChecker
