import MeteredChecker.Address.Escape
import MeteredChecker.Address.Name.Basic
import MeteredChecker.Text.Utf8

/-!
# Hosts

A host is a name or a number, and a number has two forms.  The short one has up
to four parts between points; a part is decimal, octal behind a `0`, or
hexadecimal behind `0x`, and the last one fills whatever room the others leave.
The long one stands in square brackets and has eight pieces of sixteen bits, a
run of zeros being written `::` at most once, and the last two pieces possibly in
the short form.

Whether a host is a name is decided by its last part: if that looks like a number
the host has to be one.  So `1.2.3.4.5` is no host at all, and neither is
`300.1.1.1`.  A number can be spelled in all the ways in which a name can, and so it
is as a name that a host is read first.
-/

namespace MeteredChecker
namespace Address

/-- Who is addressed. -/
inductive Host where
  | name (text : List Char)
  | short (number : Nat)
  | long (pieces : List Nat)
  deriving DecidableEq, Repr

/-! ## Numerals -/

/-- The number that digits spell in a base, the digits `seen` so far being worth
`n`. -/
def numeral? (base n : Nat) : List Char → Option Nat
  | [] => some n
  | c :: s =>
      match Text.hexValue? c with
      | some d => if d < base then numeral? base (n * base + d) s else none
      | none => none

/-- The number that a part of the short form spells.  `0x` alone is zero. -/
def part? : List Char → Option Nat
  | [] => none
  | '0' :: 'x' :: s => numeral? 16 0 s
  | '0' :: 'X' :: s => numeral? 16 0 s
  | '0' :: c :: s => numeral? 8 0 (c :: s)
  | s => numeral? 10 0 s

/-! ## The short form -/

/-- The parts of a host between its points; a point at the end counts for
nothing. -/
def parts (s : List Char) : List (List Char) :=
  let all := Text.split '.' s
  if 1 < all.length && all.getLast? == some [] then all.dropLast else all

/-- Whether a host has to be a number. -/
def isNumeric (s : List Char) : Bool :=
  match (parts s).getLast? with
  | some last => (!last.isEmpty && last.all Char.isDigit) || (part? last).isSome
  | none => false

/-- The number in the short form. -/
def short? (s : List Char) : Option Nat := do
  let numbers ← (parts s).mapM part?
  let last ← numbers.getLast?
  let front := numbers.dropLast
  if numbers.length ≤ 4 && front.all (· < 256) && last < Nat.pow 256 (4 - front.length) then
    pure (front.foldl (fun n p => n * 256 + p) 0 * Nat.pow 256 (4 - front.length) + last)
  else none

/-! ## The long form -/

/-- A piece of one to four hexadecimal digits. -/
def piece? (s : List Char) : Option Nat :=
  if s.isEmpty || 4 < s.length then none else numeral? 16 0 s

/-- A decimal number below 256 without leading zeros. -/
def octet? (s : List Char) : Option Nat := do
  let n ← numeral? 10 0 s
  if s.isEmpty || 255 < n || (s.head? == some '0' && 1 < s.length) then none else pure n

/-- The pieces in a row, between colons; `tail` allows the last two to be in the
short form. -/
def pieces? (tail : Bool) (s : List Char) : Option (List Nat) := do
  let all := Text.split ':' s
  let last ← all.getLast?
  if tail && last.contains '.' then
    let front ← all.dropLast.mapM piece?
    match ← (Text.split '.' last).mapM octet? with
    | [a, b, c, d] => pure (front ++ [a * 256 + b, c * 256 + d])
    | _ => none
  else all.mapM piece?

/-- What is before and after the first `::`. -/
def atGap : List Char → Option (List Char × List Char)
  | ':' :: ':' :: s => some ([], s)
  | c :: s => (atGap s).map fun p => (c :: p.1, p.2)
  | [] => none

/-- The pieces of the long form. -/
def long? (s : List Char) : Option (List Nat) :=
  match atGap s with
  | none => (pieces? true s).filter fun p => p.length == 8
  | some (before, after) => do
      let front ← if before.isEmpty then pure [] else pieces? false before
      let back ← if after.isEmpty then pure [] else pieces? true after
      let given := front.length + back.length
      if given < 8 then pure (front ++ List.replicate (8 - given) 0 ++ back) else none

/-! ## Hosts -/

/-- A host in square brackets, from behind the opening one. -/
def bracketed? (s : List Char) : Option Host :=
  if s.getLast? = some ']' then (long? s.dropLast).map .long else none

/-- The host of an address of the web.  There has to be one, and its escapes are
read. -/
def webHost? : List Char → Option Host
  | '[' :: s => bracketed? s
  | s => do
      let name ← Name.read? (← Text.Utf8.decode? (unescape s))
      if name.isEmpty then none
      else if isNumeric name then (short? name).map .short
      else pure (.name name)

/-- The host of any other address, which is taken as it is, but for the characters that
have to be escaped everywhere, and may be empty. -/
def plainHost? : List Char → Option Host
  | '[' :: s => bracketed? s
  | s => if s.any hostForbidden.contains then none else some (.name (escape [] s))

end Address
end MeteredChecker
