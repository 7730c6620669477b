import MeteredChecker.Binary64.Layout
import MeteredChecker.Text.Basic
import MeteredChecker.Text.Quoted

/-!
# What can be wrong with a JSON text

A reader that gives up says why and where.  The *why* is a `Reason`: a text that
is not JSON at all has one of a fixed list of reasons, and JSON of the wrong
shape has a `Misfit`, which names what was found and what was wanted.

The *where* is the number of octets that were still unread, because that is what
a reader knows: it holds the rest of the text, not the beginning.  Two ways of
counting are in use.  `Fault.here` stops in front of the next octet.
`Fault.past` stops behind it --- that octet was looked at and is the culprit ---
and at the end of the text, where there is no next octet, the two agree.  The
line and the column are worked out only at the very end, from the whole text.
-/

namespace MeteredChecker
namespace Json

/-- A value that was found where it is not wanted. -/
inductive Found where
  | null
  | bool (value : Bool)
  | integer (value : Int)
  | float (value : Float)
  | text (value : String)
  | list
  | record

/-- How a message names what was found. -/
def Found.message : Found → String
  | .null => "null"
  | .bool true => "boolean `true`"
  | .bool false => "boolean `false`"
  | .integer n => "integer `" ++ toString n ++ "`"
  | .float x => "floating point `" ++ Binary64.Layout.message.text x ++ "`"
  | .text s => "string " ++ Text.quoted s
  | .list => "sequence"
  | .record => "map"

/-- JSON that does not have the shape that is wanted. -/
inductive Misfit where
  | wrongType (found : Found) (wanted : String)
  | wrongValue (found : Found) (wanted : String)
  | wrongLength (length : Nat) (wanted : String)
  | unknownVariant (name : String) (known : List String)
  | missingField (name : String)
  | duplicateField (name : String)

/-- The text of a misfit. -/
def Misfit.message : Misfit → String
  | .wrongType found wanted => "invalid type: " ++ found.message ++ ", expected " ++ wanted
  | .wrongValue found wanted => "invalid value: " ++ found.message ++ ", expected " ++ wanted
  | .wrongLength n wanted => "invalid length " ++ toString n ++ ", expected " ++ wanted
  | .unknownVariant name known =>
      "unknown variant `" ++ name ++ "`, expected " ++
        " or ".intercalate (known.map fun k => "`" ++ k ++ "`")
  | .missingField name => "missing field `" ++ name ++ "`"
  | .duplicateField name => "duplicate field `" ++ name ++ "`"

/-- Why a reader gives up. -/
inductive Reason where
  | endInValue
  | endInString
  | endInList
  | endInRecord
  | badWord
  | noValue
  | noColon
  | noListEnd
  | noRecordEnd
  | noKey
  | trailingComma
  | trailingCharacters
  | badNumber
  | outOfRange
  | badEscape
  | control
  | loneSurrogate
  | halfPair
  | misfit (misfit : Misfit)

/-- The text of a reason. -/
def Reason.message : Reason → String
  | .endInValue => "EOF while parsing a value"
  | .endInString => "EOF while parsing a string"
  | .endInList => "EOF while parsing a list"
  | .endInRecord => "EOF while parsing an object"
  | .badWord => "expected ident"
  | .noValue => "expected value"
  | .noColon => "expected `:`"
  | .noListEnd => "expected `,` or `]`"
  | .noRecordEnd => "expected `,` or `\x7d`"
  | .noKey => "key must be a string"
  | .trailingComma => "trailing comma"
  | .trailingCharacters => "trailing characters"
  | .badNumber => "invalid number"
  | .outOfRange => "number out of range"
  | .badEscape => "invalid escape"
  | .control => "control character (\\u0000-\\u001F) found while parsing a string"
  | .loneSurrogate => "lone leading surrogate in hex escape"
  | .halfPair => "unexpected end of hex escape"
  | .misfit m => m.message

/-- A reason, and how many octets were unread when it came up. -/
structure Fault where
  reason : Reason
  unread : Nat

/-- Gives up in front of what is left. -/
def Fault.here (reason : Reason) (rest : List Char) : Fault := ⟨reason, Text.octets rest⟩

/-- Gives up behind the first octet of what is left. -/
def Fault.past (reason : Reason) (rest : List Char) : Fault := ⟨reason, Text.octets rest - 1⟩

/-! ## Lines and columns -/

/-- The line and the column, counted in octets, behind the first `n` octets of a
text.  A line begins behind each line feed. -/
def position (n : Nat) (line column : Nat) : List Char → Nat × Nat
  | [] => (line, column)
  | c :: s =>
      if n = 0 then (line, column)
      else if n < c.utf8Size then (line, column + n)
      else if c = '\n' then position (n - c.utf8Size) (line + 1) 0 s
      else position (n - c.utf8Size) line (column + c.utf8Size) s

/-- The message about a fault in a text. -/
def Fault.message (f : Fault) (text : List Char) : String :=
  let (line, column) := position (Text.octets text - f.unread) 1 0 text
  f.reason.message ++ " at line " ++ toString line ++ " column " ++ toString column

end Json
end MeteredChecker
