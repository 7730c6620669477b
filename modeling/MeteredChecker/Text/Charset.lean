import MeteredChecker.Text.Charset.Chinese
import MeteredChecker.Text.Charset.Japanese
import MeteredChecker.Text.Charset.Korean
import MeteredChecker.Text.Charset.Label
import MeteredChecker.Text.MediaType
import MeteredChecker.Text.Utf8

/-!
# Bodies as text

The octets of a response body become text by way of a charset.  A byte-order mark
decides which one if there is one, and is not part of the text; only the first
counts.  Otherwise the `charset` of the media type decides, and where that is
absent, unreadable or unknown the body is UTF-8.

Reading never fails: whatever is no character becomes U+FFFD.
-/

namespace MeteredChecker
namespace Text
namespace Charset

/-- The charset that a media type asks for.  A media type that is not written in
visible ASCII, blanks included, says nothing. -/
def ofMediaType (contentType : Option String) : Charset :=
  match contentType with
  | none => .utf8
  | some s =>
      if s.toList.all fun c => (0x20 ≤ c.toNat && c.toNat < 0x7F) || c == '\t' then
        ((MediaType.parameter? "charset" s).bind ofLabel?).getD .utf8
      else .utf8

/-- The charset that a byte-order mark announces, and the octets after the mark. -/
def ofMark? : List UInt8 → Option (Charset × List UInt8)
  | 0xEF :: 0xBB :: 0xBF :: rest => some (.utf8, rest)
  | 0xFE :: 0xFF :: rest => some (.utf16 .bigEndian, rest)
  | 0xFF :: 0xFE :: rest => some (.utf16 .littleEndian, rest)
  | _ => none

/-- The character of an octet where the ones from 80 on are private. -/
def privateChar (b : UInt8) : Char :=
  Char.ofNat (if b < 0x80 then b.toNat else 0xF780 + (b.toNat - 0x80))

/-- The characters of a list of octets in a charset. -/
def decode : Charset → List UInt8 → List Char
  | .utf8, s => Utf8.decodeLossy s
  | .utf16 order, s => Utf16.decodeLossy order s
  | .singleByte list, s => s.map list.char
  | .shiftJis, s => Japanese.shiftJis.decode s
  | .eucJp, s => Japanese.eucJp.decode s
  | .iso2022Jp, s => Japanese.decodeModal .ascii false s
  | .eucKr, s => Korean.eucKr.decode s
  | .big5, s => Chinese.big5.decode s
  | .gb18030, s => Chinese.gb18030.decode s
  | .userDefined, s => s.map privateChar
  | .refused, s => if s.isEmpty then [] else [replacement]

end Charset

/-- The text of a body with a media type. -/
def ofBody (contentType : Option String) (body : List UInt8) : String :=
  match Charset.ofMark? body with
  | some (charset, rest) => String.ofList (charset.decode rest)
  | none => String.ofList ((Charset.ofMediaType contentType).decode body)

end Text
end MeteredChecker
