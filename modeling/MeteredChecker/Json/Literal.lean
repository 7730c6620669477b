import MeteredChecker.Json.Token
import MeteredChecker.Text.Hex

/-!
# JSON strings

A string is read from behind its opening quote.  Most characters stand for
themselves; a control character does not, and neither does a backslash, behind
which there is a short escape or the number of a character in four hexadecimal
digits.

Four digits reach no further than U+FFFF, so a character beyond that is written
as two escapes, a high surrogate and a low one.  A low surrogate that comes first
is refused, and so is a high one that is not followed by an escape with a low
one.  Where exactly that is noticed decides where the fault is: the digits of an
escape are taken four at a time, and what should be a backslash or a `u` is
taken before it is compared.
-/

namespace MeteredChecker
namespace Json

/-! ## Escapes -/

/-- The number that four hexadecimal digits spell. -/
def hexValue4? (a b c d : Char) : Option Nat := do
  let a ← Text.hexValue? a
  let b ← Text.hexValue? b
  let c ← Text.hexValue? c
  let d ← Text.hexValue? d
  pure (((a * 16 + b) * 16 + c) * 16 + d)

/-- The fault of four octets that are no digits: if there are fewer than four the
string ends too early, and otherwise the fault is behind all of them. -/
def hexFault (s : List Char) : Fault :=
  if Text.octets s < 4 then ⟨.endInString, 0⟩ else ⟨.badEscape, Text.octets s - 4⟩

/-- Reads four hexadecimal digits. -/
def hex4 (s : List Char) : Result Nat :=
  match s with
  | a :: b :: c :: d :: rest =>
      match hexValue4? a b c d with
      | some n => .ok (n, rest)
      | none => .error (hexFault s)
  | _ => .error (hexFault s)

/-- Whether a number is a high surrogate. -/
def isHigh (n : Nat) : Bool := 0xD800 ≤ n && n ≤ 0xDBFF

/-- Whether a number is a low surrogate. -/
def isLow (n : Nat) : Bool := 0xDC00 ≤ n && n ≤ 0xDFFF

/-- Reads the second half of a surrogate pair, whose first half was `high`. -/
def lowHalf (high : Nat) : List Char → Result Char
  | [] => .error (.here .endInString [])
  | '\\' :: [] => .error (.here .endInString [])
  | '\\' :: 'u' :: s =>
      match hex4 s with
      | .error f => .error f
      | .ok (low, rest) =>
          if isLow low then
            .ok (Char.ofNat (0x10000 + (high - 0xD800) * 0x400 + (low - 0xDC00)), rest)
          else .error (.here .loneSurrogate rest)
  | '\\' :: s => .error (.past .halfPair s)
  | s => .error (.past .halfPair s)

/-- Reads what follows `\u`: the number of a character, or the two halves of a
surrogate pair. -/
def unicodeEscape (s : List Char) : Result Char :=
  match hex4 s with
  | .error f => .error f
  | .ok (n, rest) =>
      if isLow n then .error (.here .loneSurrogate rest)
      else if isHigh n then lowHalf n rest
      else .ok (Char.ofNat n, rest)

/-- The character that a short escape stands for. -/
def shortEscape? : Char → Option Char
  | '"' => some '"'
  | '\\' => some '\\'
  | '/' => some '/'
  | 'b' => some '\x08'
  | 'f' => some '\x0c'
  | 'n' => some '\n'
  | 'r' => some '\r'
  | 't' => some '\t'
  | _ => none

/-- Reads what follows a backslash. -/
def escape : List Char → Result Char
  | [] => .error (.here .endInString [])
  | c :: s =>
      if c = 'u' then unicodeEscape s
      else match shortEscape? c with
        | some d => .ok (d, s)
        | none => .error (.past .badEscape (c :: s))

theorem within_hex4 (s : List Char) : (hex4 s).Within (s.length - 1) := by
  unfold hex4
  split
  · split
    · exact .ok (by simp only [List.length_cons]; omega)
    · exact .error
  · exact .error

theorem within_lowHalf (high : Nat) (s : List Char) : (lowHalf high s).Within s.length := by
  unfold lowHalf
  split
  · exact .error
  · exact .error
  · next s =>
      split
      · exact .error
      · next heq =>
          have := within_hex4 s _ _ heq
          split
          · exact .ok (by simp only [List.length_cons]; omega)
          · exact .error
  · exact .error
  · exact .error

theorem within_unicodeEscape (s : List Char) : (unicodeEscape s).Within s.length := by
  unfold unicodeEscape
  split
  · exact .error
  · next heq =>
      have := within_hex4 s _ _ heq
      split
      · exact .error
      · split
        · exact (within_lowHalf _ _).mono (by omega)
        · exact .ok (by omega)

theorem within_escape (s : List Char) : (escape s).Within (s.length - 1) := by
  unfold escape
  split
  · exact .error
  · split
    · exact (within_unicodeEscape _).mono (by simp)
    · split
      · exact .ok (by simp)
      · exact .error

/-! ## Whole strings -/

/-- Reads a string behind its opening quote; `done` holds the characters so far,
the last one first. -/
def stringFrom (done : List Char) : List Char → Result (List Char)
  | [] => .error (.here .endInString [])
  | c :: s =>
      if c = '"' then .ok (done.reverse, s)
      else if c = '\\' then
        match h : escape s with
        | .error f => .error f
        | .ok (d, rest) =>
            have : rest.length < s.length + 1 := by
              have := within_escape s _ _ h
              omega
            stringFrom (d :: done) rest
      else if c.toNat < 0x20 then .error (.here .control s)
      else stringFrom (c :: done) s
  termination_by s => s.length

/-- Reads a string behind its opening quote. -/
def string (s : List Char) : Result (List Char) := stringFrom [] s

theorem within_stringFrom (done s : List Char) : (stringFrom done s).Within (s.length - 1) := by
  fun_induction stringFrom done s with
  | case1 => exact .error
  | case2 => exact .ok (by simp)
  | case3 => exact .error
  | case4 done s _ rest h _ _ ih =>
      have := within_escape s _ _ h
      exact ih.mono (by simp only [List.length_cons]; omega)
  | case5 => exact .error
  | case6 done c s _ _ _ ih => exact ih.mono (by simp only [List.length_cons]; omega)

theorem within_string (s : List Char) : (string s).Within (s.length - 1) :=
  within_stringFrom [] s

end Json
end MeteredChecker
