import MeteredChecker.Text.Hex

/-!
# Writing JSON

What this library writes as JSON is small: records of texts, numbers, flags and
further records, with nothing between the tokens.  `Value` holds just that, and
`Value.chars` is the one way it becomes text.

A text is written with the escapes that JSON insists on and no others: the quote,
the backslash, and everything below U+0020, by its short name where it has one
and by four digits where it has not.  Everything else --- U+007F, the slash, the
characters outside ASCII --- stands for itself.
-/

namespace MeteredChecker
namespace Json

/-- One character inside a JSON string. -/
def escaped (c : Char) : List Char :=
  match c with
  | '"' => ['\\', '"']
  | '\\' => ['\\', '\\']
  | '\x08' => ['\\', 'b']
  | '\x0c' => ['\\', 'f']
  | '\n' => ['\\', 'n']
  | '\r' => ['\\', 'r']
  | '\t' => ['\\', 't']
  | c =>
      if c.toNat < 0x20 then
        ['\\', 'u', '0', '0', Text.hexDigit (c.toNat / 16), Text.hexDigit (c.toNat % 16)]
      else [c]

/-- A text as a JSON string. -/
def stringChars (s : List Char) : List Char := '"' :: s.flatMap escaped ++ ['"']

/-- The JSON values that are written. -/
inductive Value where
  | null
  | bool (value : Bool)
  | natural (value : Nat)
  | text (value : String)
  | record (members : List (String × Value))

mutual

/-- The characters of a value. -/
def Value.chars : Value → List Char
  | .null => "null".toList
  | .bool true => "true".toList
  | .bool false => "false".toList
  | .natural n => Nat.toDigits 10 n
  | .text s => stringChars s.toList
  | .record members => '{' :: Value.memberChars members ++ ['}']

/-- The characters of the members of a record, with commas between them. -/
def Value.memberChars : List (String × Value) → List Char
  | [] => []
  | [(name, value)] => stringChars name.toList ++ ':' :: value.chars
  | (name, value) :: more =>
      stringChars name.toList ++ ':' :: value.chars ++ ',' :: Value.memberChars more

end

/-- The text of a value. -/
def Value.render (v : Value) : String := String.ofList v.chars

end Json
end MeteredChecker
