import MeteredChecker.Address.Basic

/-!
# Addresses as texts

An address is written in one way only, since reading it has settled everything that can
be written in several.  What belongs to the scheme goes without saying: a socket is
written only if it is another one.

The long form of a number has a run of zeros left out, the longest one, and of several
equally long ones the first.  A single zero is not a run.
-/

namespace MeteredChecker
namespace Address

/-! ## Hosts -/

/-- A number below 256 to the fourth in four parts. -/
def shortChars (n : Nat) : List Char :=
  ['.'].intercalate ([24, 16, 8, 0].map fun shift => Nat.toDigits 10 (n >>> shift % 256))

/-- How many zeros there are from a piece on. -/
def zerosAt (pieces : List Nat) (i : Nat) : Nat := ((pieces.drop i).takeWhile (· == 0)).length

/-- Where the longest run of zeros begins. -/
def gapAt (pieces : List Nat) : Nat :=
  (List.range pieces.length).foldl
    (fun best i => if zerosAt pieces best < zerosAt pieces i then i else best) 0

/-- Pieces between colons. -/
def piecesChars (pieces : List Nat) : List Char := [':'].intercalate (pieces.map (Nat.toDigits 16))

/-- A number in pieces, with its longest run of zeros left out. -/
def longChars (pieces : List Nat) : List Char :=
  let gap := gapAt pieces
  let zeros := zerosAt pieces gap
  if zeros < 2 then piecesChars pieces
  else piecesChars (pieces.take gap) ++ [':', ':'] ++ piecesChars (pieces.drop (gap + zeros))

/-- A host as text.  A name is written as it reads. -/
def Host.chars : Host → List Char
  | .name text => text
  | .short number => shortChars number
  | .long pieces => '[' :: longChars pieces ++ [']']

/-! ## Addresses -/

/-- Something that may be there, behind a sign of its own. -/
def behind (sign : Char) (part : Option (List Char)) : List Char :=
  match part with
  | some chars => sign :: chars
  | none => []

/-- What is in front of the path of an address: two slashes and a host, which a file need
not have.  Without any, a path that begins with two slashes has a step in front of it that
leads nowhere, lest it be taken for a host. -/
def authorityChars (a : Address) : List Char :=
  match a.host with
  | some host => '/' :: '/' :: host.chars ++ behind ':' (a.socket.map (Nat.toDigits 10))
  | none =>
      if a.scheme == "file" then ['/', '/']
      else if ['/', '/'].isPrefixOf a.path.chars then ['/', '.']
      else []

/-- An address as text. -/
def chars (a : Address) : List Char :=
  a.scheme.toList ++ ':' :: a.authorityChars ++ a.path.chars ++ behind '?' a.query ++
    behind '#' a.fragment

end Address
end MeteredChecker
