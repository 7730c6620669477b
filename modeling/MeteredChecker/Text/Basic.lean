/-!
# Texts

Texts are `String`s.  The handful of operations that the settings and the
addresses need beyond the core library are stated on the list of characters, so
that each of them is a list function with list lemmas: a text begins with
another when one list is a prefix of the other, and cutting a character off the
end is dropping it from the front of the reversed list.
-/

namespace MeteredChecker
namespace Text

/-- Whether a text begins with another. -/
def startsWith (s start : String) : Bool := start.toList.isPrefixOf s.toList

/-- A list of characters without the copies of `c` at its end. -/
def dropEndChars (c : Char) (s : List Char) : List Char :=
  (s.reverse.dropWhile (· == c)).reverse

/-- A text without the copies of `c` at its end. -/
def dropEnd (c : Char) (s : String) : String := String.ofList (dropEndChars c s.toList)

/-- A text with the capital letters of ASCII made small; every other character
stays as it is. -/
def lower (s : String) : String := String.ofList (s.toList.map Char.toLower)

/-- The parts of a list of characters between the copies of `c`.  There is always
one more of them than there are copies. -/
def split (c : Char) : List Char → List (List Char)
  | [] => [[]]
  | d :: s =>
      if d = c then [] :: split c s
      else
        match split c s with
        | part :: more => (d :: part) :: more
        | [] => [[d]]

/-- The number of octets that the UTF-8 form of a list of characters takes. -/
def octets (s : List Char) : Nat := s.foldl (fun n c => n + c.utf8Size) 0

end Text
end MeteredChecker
