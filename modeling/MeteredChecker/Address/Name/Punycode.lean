/-!
# Labels in disguise

A label of a name can be written in ASCII whatever characters it has.  The ones of
ASCII come first, as they are, then a hyphen if there are any, and then the others
as *insertions*: in increasing order, each by how many steps it is away from the one
before it, where a step goes to the next place in the label and, behind the last
place, to the next character.

The number of steps is written in digits of base 36, the lowest first.  Which digits
can be the last one depends on a threshold for each digit, and the thresholds adapt
to the numbers seen so far.  All of this is done in numbers of 32 bits, and a label
that needs larger ones is not one.

Reading digit by digit makes the recursion one on the text: what has been read of a
number that is not finished yet is part of the state.
-/

namespace MeteredChecker
namespace Address
namespace Punycode

/-- The value of a digit: the letters come before the figures, in either case. -/
def digit? (c : Char) : Option Nat :=
  if 'a' ≤ c ∧ c ≤ 'z' then some (c.toNat - 'a'.toNat)
  else if 'A' ≤ c ∧ c ≤ 'Z' then some (c.toNat - 'A'.toNat)
  else if '0' ≤ c ∧ c ≤ '9' then some (c.toNat - '0'.toNat + 26)
  else none

/-- The threshold of the digit in place `k`, places being counted in steps of 36. -/
def threshold (k bias : Nat) : Nat := if k ≤ bias then 1 else if bias + 26 ≤ k then 26 else k - bias

/-- How often a number can be divided by 35 until it is at most 455, in steps of 36,
and what is left of it. -/
def scaled (k n : Nat) : Nat × Nat :=
  if h : 455 < n then
    have : n / 35 < n := Nat.div_lt_self (Nat.lt_trans (by decide) h) (by decide)
    scaled (k + 36) (n / 35)
  else (k, n)
  termination_by n

/-- The bias behind a number of steps, the label having `length` characters by then. -/
def adapt (steps length : Nat) (isFirst : Bool) : Nat :=
  let damped := if isFirst then steps / 700 else steps / 2
  let (k, rest) := scaled 0 (damped + damped / length)
  k + 36 * rest / (rest + 38)

/-- A label that is being read: its characters so far, the last one inserted and the
place behind it, the bias, and what has been read of the next number. -/
structure Reading where
  text : List Char
  last : Nat
  place : Nat
  bias : Nat
  /-- The place with the steps added that the digits stand for. -/
  target : Nat
  /-- What the next digit counts. -/
  weight : Nat
  /-- The place of the next digit. -/
  k : Nat

namespace Reading

/-- The beginning of the insertions into some characters. -/
def new (text : List Char) : Reading := ⟨text, 0x80, 0, 72, 0, 1, 36⟩

/-- Whether no number has been begun. -/
def isBetween (r : Reading) : Bool := r.k == 36

/-- Inserts the character that the number has been read for. -/
def insert? (r : Reading) : Option Reading :=
  let length := r.text.length + 1
  let last := r.last + r.target / length
  let place := r.target % length
  if last.isValidChar then
    some
      { text := r.text.insertIdx place (Char.ofNat last)
        last := last
        place := place + 1
        bias := adapt (r.target - r.place) length (r.place == 0)
        target := place + 1
        weight := 1
        k := 36 }
  else none

/-- Reads a digit. -/
def step? (r : Reading) (c : Char) : Option Reading := do
  let d ← digit? c
  let r := { r with target := r.target + d * r.weight }
  let t := threshold r.k r.bias
  if UInt32.size ≤ r.target then none
  else if d < t then r.insert?
  else
    let weight := r.weight * (36 - t)
    if weight < UInt32.size then pure { r with weight := weight, k := r.k + 36 } else none

end Reading

/-- What is in front of the last hyphen, and behind it.  A hyphen at the very
beginning is none. -/
def atHyphen (s : List Char) : List Char × List Char :=
  let digits := (s.reverse.takeWhile (· != '-')).reverse
  let before := s.take (s.length - digits.length)
  if 1 < before.length then (before.dropLast, digits) else ([], s)

/-- The label that a text stands for. -/
def decode? (s : List Char) : Option (List Char) := do
  let (plain, digits) := atHyphen s
  let r ← digits.foldlM Reading.step? (Reading.new plain)
  if r.isBetween then pure r.text else none

end Punycode
end Address
end MeteredChecker
