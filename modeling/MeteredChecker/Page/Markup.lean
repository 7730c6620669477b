/-!
# Markup

A page is a tree of elements and texts before it is a text itself.  There is one
place where trees become text, and it is the only one that knows about angle
brackets: whatever stands in a text or in an attribute is written so that it
stays there.

A text that is empty is written as a single blank, so that there is always
something in its place that can be changed later.
-/

namespace MeteredChecker
namespace Page

/-- An attribute of an element. -/
structure Attribute where
  name : String
  value : String
  deriving DecidableEq, Repr

/-- A tree of elements and texts. -/
inductive Markup where
  | text (content : String)
  | element (tag : String) (attributes : List Attribute) (children : List Markup)

namespace Markup

/-- A character where it must not be taken for markup. -/
def escaped (c : Char) : List Char :=
  match c with
  | '&' => "&amp;".toList
  | '<' => "&lt;".toList
  | '>' => "&gt;".toList
  | c => [c]

/-- A character inside the quotes of an attribute. -/
def attributeChar (c : Char) : List Char :=
  match c with
  | '"' => "&quot;".toList
  | c => escaped c

/-- An attribute behind the name of its tag. -/
def attributeChars (a : Attribute) : List Char :=
  ' ' :: a.name.toList ++ "=\"".toList ++ a.value.toList.flatMap attributeChar ++ ['"']

/-- A text between tags. -/
def textChars (content : String) : List Char :=
  if content.toList.isEmpty then [' '] else content.toList.flatMap escaped

mutual

/-- The characters of a tree. -/
def chars : Markup → List Char
  | .text content => textChars content
  | .element tag attributes children =>
      '<' :: tag.toList ++ attributes.flatMap attributeChars ++ '>' :: charsOfAll children ++
        "</".toList ++ tag.toList ++ ['>']

/-- The characters of trees in a row. -/
def charsOfAll : List Markup → List Char
  | [] => []
  | m :: more => chars m ++ charsOfAll more

end

/-- The text of a tree. -/
def render (m : Markup) : String := String.ofList m.chars

end Markup
end Page
end MeteredChecker
