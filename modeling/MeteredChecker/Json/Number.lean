import MeteredChecker.Json.Token

/-!
# JSON numbers

The digits of a number are gathered in a significand of 64 bits.  A whole number
that fits is exact.  All others become doubles, computed as significand times or
divided by a power of ten: digits before the point that no longer fit only raise
the power, digits behind it that no longer fit are dropped.  The two steps round
separately, so the double is not always the nearest one to the text.

A power of ten past the doubles is a fault, but one that makes the number vanish
is not: such a number is zero.  There is no negative whole zero; `-0` is a double.
-/

namespace MeteredChecker
namespace Json

/-! ## Parts of a number -/

/-- A number as it was read. -/
inductive Number where
  | natural (value : Nat)
  | negative (size : Nat)
  | float (value : Float)

/-- The zeros of a double. -/
def Number.zero (negative : Bool) : Number := .float (if negative then -0.0 else 0.0)

/-- How a message names a number. -/
def Number.found : Number → Found
  | .natural n => .integer n
  | .negative n => .integer (-n)
  | .float x => .float x

/-- The value of a digit. -/
def digitValue (c : Char) : Nat := c.toNat - '0'.toNat

/-- Takes digits in as long as the significand stays below `limit`.  Answers with
the significand, the number of digits taken and the rest. -/
def gather (limit n taken : Nat) : List Char → Nat × Nat × List Char
  | [] => (n, taken, [])
  | c :: s =>
      if c.isDigit && n * 10 + digitValue c < limit then
        gather limit (n * 10 + digitValue c) (taken + 1) s
      else (n, taken, c :: s)

/-- The significands of 64 bits. -/
def wordLimit : Nat := UInt64.size

/-- A double divided by a power of ten, in steps that a double can hold. -/
def divided (x : Float) (e : Nat) : Float :=
  if e ≤ 308 then x / Float.ofScientific 1 false e
  else if x == 0 then x
  else divided (x / 1e308) (e - 308)
  termination_by e

/-- A significand times a power of ten, or `none` if that is past the doubles. -/
def scaled? (n : Nat) (e : Int) : Option Float :=
  let x := n.toUInt64.toFloat
  if e < 0 then some (divided x e.natAbs)
  else if e ≤ 308 then
    let y := x * Float.ofScientific 1 false e.toNat
    if y.isInf then none else some y
  else if x == 0 then some x
  else none

/-- The number with a significand and a power of ten, in front of `rest`. -/
def floating (negative : Bool) (n : Nat) (e : Int) (rest : List Char) : Result Number :=
  match scaled? n e with
  | some x => .ok (.float (if negative then -x else x), rest)
  | none => .error (.here .outOfRange rest)

/-- Takes in the digits of an exponent.  The exponent has 31 bits; `none` stands
for one that has more, and the rest is then behind the digit that broke it. -/
def exponentDigits (e : Nat) : List Char → Option Nat × List Char
  | [] => (some e, [])
  | c :: s =>
      if c.isDigit then
        if e * 10 + digitValue c < Nat.pow 2 31 then exponentDigits (e * 10 + digitValue c) s
        else (none, s)
      else (some e, c :: s)

/-- Whether a sign is a minus, and what is left behind it. -/
def sign : List Char → Bool × List Char
  | '+' :: s => (false, s)
  | '-' :: s => (true, s)
  | s => (false, s)

/-- What is left behind the mark of an exponent. -/
def exponentMark? : List Char → Option (List Char)
  | 'e' :: s => some s
  | 'E' :: s => some s
  | _ => none

/-! ## Numbers -/

/-- Reads an exponent behind its mark.  An exponent that is too large makes a
zero of a zero, and of anything if it is negative. -/
def exponent (negative : Bool) (n : Nat) (shift : Int) (s : List Char) : Result Number :=
  match (sign s).2 with
  | [] => .error (.here .endInValue [])
  | c :: t =>
      if c.isDigit then
        match exponentDigits (digitValue c) t with
        | (some e, rest) => floating negative n (if (sign s).1 then shift - e else shift + e) rest
        | (none, rest) =>
            if n ≠ 0 ∧ !(sign s).1 then .error (.here .outOfRange rest)
            else .ok (.zero negative, rest.dropWhile Char.isDigit)
      else .error (.past .badNumber (c :: t))

/-- Reads an exponent if there is one. -/
def optionalExponent (negative : Bool) (n : Nat) (shift : Int) (s : List Char) : Result Number :=
  match exponentMark? s with
  | some rest => exponent negative n shift rest
  | none => floating negative n shift s

/-- Reads the digits behind a point. -/
def fraction (negative : Bool) (n : Nat) (shift : Int) (s : List Char) : Result Number :=
  match s with
  | [] => .error (.past .endInValue [])
  | c :: _ =>
      if c.isDigit then
        let gathered := gather wordLimit n 0 s
        optionalExponent negative gathered.1 (shift - gathered.2.1)
          (gathered.2.2.dropWhile Char.isDigit)
      else .error (.past .badNumber s)

/-- The number without a point or an exponent. -/
def whole (negative : Bool) (n : Nat) : Number :=
  if !negative then .natural n
  else if n = 0 || Nat.pow 2 63 < n then .float (-n.toUInt64.toFloat)
  else .negative n

/-- Reads the digits of a number, the first of which is there. -/
def unsigned (negative : Bool) (s : List Char) : Result Number :=
  let gathered := gather wordLimit 0 0 s
  let n := gathered.1
  let dropped := gathered.2.2.takeWhile Char.isDigit
  match gathered.2.2.dropWhile Char.isDigit with
  | '.' :: rest => fraction negative n dropped.length rest
  | rest =>
      if dropped.isEmpty && (exponentMark? rest).isNone then .ok (whole negative n, rest)
      else optionalExponent negative n dropped.length rest

/-- Reads a number behind its sign.  A zero that begins a number is all of its
digits before the point. -/
def digits (negative : Bool) (s : List Char) : Result Number :=
  match s with
  | [] => .error (.here .endInValue [])
  | c :: rest =>
      if !c.isDigit then .error (.past .badNumber s)
      else if c = '0' && rest.head?.any Char.isDigit then .error (.past .badNumber rest)
      else unsigned negative s

/-- Reads a number. -/
def number : List Char → Result Number
  | '-' :: s => digits true s
  | s => digits false s

/-! ## How much is left -/

theorem length_gather_le (limit n taken : Nat) (s : List Char) :
    (gather limit n taken s).2.2.length ≤ s.length := by
  induction s generalizing n taken with
  | nil => simp [gather]
  | cons c s ih =>
      simp only [gather]
      split
      · exact Nat.le_succ_of_le (ih _ _)
      · simp

theorem length_exponentDigits_le (e : Nat) (s : List Char) :
    (exponentDigits e s).2.length ≤ s.length := by
  induction s generalizing e with
  | nil => simp [exponentDigits]
  | cons c s ih =>
      simp only [exponentDigits]
      split
      · split
        · exact Nat.le_succ_of_le (ih _)
        · simp
      · simp

theorem length_sign_le (s : List Char) : (sign s).2.length ≤ s.length := by
  unfold sign
  split <;> simp

theorem length_exponentMark?_lt {s r : List Char} (h : exponentMark? s = some r) :
    r.length < s.length := by
  unfold exponentMark? at h
  split at h
  · simp only [Option.some.injEq] at h; simp [h]
  · simp only [Option.some.injEq] at h; simp [h]
  · simp at h

theorem within_floating (negative : Bool) (n : Nat) (e : Int) (s : List Char) :
    (floating negative n e s).Within s.length := by
  unfold floating
  split
  · exact .ok (Nat.le_refl _)
  · exact .error

theorem within_exponent (negative : Bool) (n : Nat) (e : Int) (s : List Char) :
    (exponent negative n e s).Within s.length := by
  have hs := length_sign_le s
  unfold exponent
  split
  · exact .error
  · next c t heq =>
      rw [heq] at hs
      have hd := length_exponentDigits_le (digitValue c) t
      simp only [List.length_cons] at hs
      split
      · split
        · next h =>
            rw [h] at hd
            exact (within_floating _ _ _ _).mono (by simp only at hd; omega)
        · next h =>
            rw [h] at hd
            split
            · exact .error
            · refine .ok (Nat.le_trans (List.dropWhile_suffix _).length_le ?_)
              simp only at hd
              omega
      · exact .error

theorem within_optionalExponent (negative : Bool) (n : Nat) (e : Int) (s : List Char) :
    (optionalExponent negative n e s).Within s.length := by
  unfold optionalExponent
  split
  · next h => exact (within_exponent _ _ _ _).mono (Nat.le_of_lt (length_exponentMark?_lt h))
  · exact within_floating _ _ _ _

theorem within_fraction (negative : Bool) (n : Nat) (e : Int) (s : List Char) :
    (fraction negative n e s).Within s.length := by
  unfold fraction
  split
  · exact .error
  · split
    · exact (within_optionalExponent _ _ _ _).mono
        (Nat.le_trans (List.dropWhile_suffix _).length_le (length_gather_le _ _ _ _))
    · exact .error

theorem gather_length_lt {limit n : Nat} (taken : Nat) {c : Char} (s : List Char) (hc : c.isDigit)
    (hlimit : n * 10 + digitValue c < limit) :
    (gather limit n taken (c :: s)).2.2.length < (c :: s).length := by
  simp only [gather, hc, hlimit, decide_true, Bool.and_self, if_true, List.length_cons]
  exact Nat.lt_succ_of_le (length_gather_le _ _ _ _)

theorem within_unsigned (negative : Bool) (c : Char) (s : List Char) (hc : c.isDigit) :
    (unsigned negative (c :: s)).Within s.length := by
  have hdigit : 0 * 10 + digitValue c < wordLimit := by
    have : c.toNat ≤ 0x39 := by
      simp only [Char.isDigit, Bool.and_eq_true, decide_eq_true_eq] at hc
      exact hc.2
    simp only [digitValue, wordLimit, UInt64.size]
    omega
  have hg := gather_length_lt 0 s hc hdigit
  have hd : ((gather wordLimit 0 0 (c :: s)).2.2.dropWhile Char.isDigit).length ≤ _ :=
    (List.dropWhile_suffix _).length_le
  simp only [List.length_cons] at hg
  unfold unsigned
  simp only
  split
  · next heq =>
      rw [heq] at hd
      exact (within_fraction _ _ _ _).mono (by simp only [List.length_cons] at hd; omega)
  · split
    · exact .ok (by omega)
    · exact (within_optionalExponent _ _ _ _).mono (by omega)

theorem within_digits (negative : Bool) (s : List Char) :
    (digits negative s).Within (s.length - 1) := by
  unfold digits
  split
  · exact .error
  · next c rest =>
      split
      · exact .error
      · next hc =>
          split
          · exact .error
          · exact (within_unsigned negative c rest (by simpa using hc)).mono (by simp)

theorem within_number (s : List Char) : (number s).Within (s.length - 1) := by
  unfold number
  split
  · exact (within_digits _ _).mono (by simp)
  · exact within_digits _ _

end Json
end MeteredChecker
