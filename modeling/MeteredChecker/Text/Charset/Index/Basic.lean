/-!
# Numbered characters

A charset of several octets numbers its characters, and its octets only say the
number.  An `Index` is such a numbering.  Its modules list the characters in
stretches, each with the number of its first one; in a stretch, and between two of
them, a number may have no character.
-/

namespace MeteredChecker
namespace Text

/-- A numbering of characters, with a low line for each number that has none. -/
structure Index where
  characters : Array Char
  deriving DecidableEq, Repr

namespace Index

/-- The numbering with the given stretches, which are in order. -/
def ofStretches (stretches : List (Nat × List String)) : Index :=
  ⟨stretches.foldl
    (fun done stretch =>
      let gap := Array.replicate (stretch.1 - done.size) '_'
      stretch.2.foldl (fun done row => done ++ row.toList.toArray) (done ++ gap))
    #[]⟩

/-- The character with a number. -/
def char? (i : Index) (n : Nat) : Option Char := i.characters[n]?.filter (· != '_')

end Index
end Text
end MeteredChecker
