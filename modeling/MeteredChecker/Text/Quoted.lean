import MeteredChecker.Text.Printable

/-!
# Texts in quotes, for a reader

A message that complains about a text shows it in quotes, in a form that can be
read on one line: the quote and the backslash are escaped, the four controls
that have a short name use it, and every other character without a glyph is
spelled by its number in braces.  An apostrophe stays as it is.
-/

namespace MeteredChecker
namespace Text

/-- One character of a quoted text. -/
def quotedChar (c : Char) : List Char :=
  match c with
  | '"' => ['\\', '"']
  | '\\' => ['\\', '\\']
  | '\n' => ['\\', 'n']
  | '\r' => ['\\', 'r']
  | '\t' => ['\\', 't']
  | '\x00' => ['\\', '0']
  | c =>
      if isPrintable c then [c]
      else ['\\', 'u', '\x7b'] ++ Nat.toDigits 16 c.toNat ++ ['\x7d']

/-- A text in quotes, its invisible characters spelled out. -/
def quoted (s : String) : String :=
  String.ofList ('"' :: s.toList.flatMap quotedChar ++ ['"'])

end Text
end MeteredChecker
