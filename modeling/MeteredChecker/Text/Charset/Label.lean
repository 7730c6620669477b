import MeteredChecker.Text.Basic
import MeteredChecker.Text.Charset.SingleByte
import MeteredChecker.Text.Utf16

/-!
# Names of charsets

Every charset has several names, most of them historical.  Some were the names of
different charsets once: whoever claims plain ASCII or `iso-8859-1` means
windows-1252 in practice, and whoever claims `gb2312` means the larger charset that
contains it.  A name may have blanks around it, and the case of its letters does not
matter.
-/

namespace MeteredChecker
namespace Text

/-- The ways to read octets as text. -/
inductive Charset where
  | utf8
  | utf16 (order : Utf16.Order)
  | singleByte (list : SingleByte)
  | shiftJis
  | eucJp
  | iso2022Jp
  | eucKr
  | big5
  | gb18030
  /-- Octets from 80 on are private characters. -/
  | userDefined
  /-- A charset that is not to be read: one replacement for all of the text. -/
  | refused
  deriving DecidableEq, Repr

namespace Charset

/-- The names of the charsets. -/
def labels : List (Charset × List String) :=
  [(.utf8,
    ["unicode-1-1-utf-8", "unicode11utf8", "unicode20utf8", "utf-8", "utf8", "x-unicode20utf8"]),
   (.singleByte .ibm866, ["866", "cp866", "csibm866", "ibm866"]),
   (.singleByte .iso8859Part2,
    ["csisolatin2", "iso-8859-2", "iso-ir-101", "iso8859-2", "iso88592", "iso_8859-2",
     "iso_8859-2:1987", "l2", "latin2"]),
   (.singleByte .iso8859Part3,
    ["csisolatin3", "iso-8859-3", "iso-ir-109", "iso8859-3", "iso88593", "iso_8859-3",
     "iso_8859-3:1988", "l3", "latin3"]),
   (.singleByte .iso8859Part4,
    ["csisolatin4", "iso-8859-4", "iso-ir-110", "iso8859-4", "iso88594", "iso_8859-4",
     "iso_8859-4:1988", "l4", "latin4"]),
   (.singleByte .iso8859Part5,
    ["csisolatincyrillic", "cyrillic", "iso-8859-5", "iso-ir-144", "iso8859-5", "iso88595",
     "iso_8859-5", "iso_8859-5:1988"]),
   (.singleByte .iso8859Part6,
    ["arabic", "asmo-708", "csiso88596e", "csiso88596i", "csisolatinarabic", "ecma-114",
     "iso-8859-6", "iso-8859-6-e", "iso-8859-6-i", "iso-ir-127", "iso8859-6", "iso88596",
     "iso_8859-6", "iso_8859-6:1987"]),
   (.singleByte .iso8859Part7,
    ["csisolatingreek", "ecma-118", "elot_928", "greek", "greek8", "iso-8859-7", "iso-ir-126",
     "iso8859-7", "iso88597", "iso_8859-7", "iso_8859-7:1987", "sun_eu_greek"]),
   (.singleByte .iso8859Part8,
    ["csiso88598e", "csiso88598i", "csisolatinhebrew", "hebrew", "iso-8859-8", "iso-8859-8-e",
     "iso-8859-8-i", "iso-ir-138", "iso8859-8", "iso88598", "iso_8859-8", "iso_8859-8:1988",
     "logical", "visual"]),
   (.singleByte .iso8859Part10,
    ["csisolatin6", "iso-8859-10", "iso-ir-157", "iso8859-10", "iso885910", "l6", "latin6"]),
   (.singleByte .iso8859Part13, ["iso-8859-13", "iso8859-13", "iso885913"]),
   (.singleByte .iso8859Part14, ["iso-8859-14", "iso8859-14", "iso885914"]),
   (.singleByte .iso8859Part15,
    ["csisolatin9", "iso-8859-15", "iso8859-15", "iso885915", "iso_8859-15", "l9"]),
   (.singleByte .iso8859Part16, ["iso-8859-16"]),
   (.singleByte .koi8r, ["cskoi8r", "koi", "koi8", "koi8-r", "koi8_r"]),
   (.singleByte .koi8u, ["koi8-ru", "koi8-u"]),
   (.singleByte .macintosh, ["csmacintosh", "mac", "macintosh", "x-mac-roman"]),
   (.singleByte .windows874,
    ["dos-874", "iso-8859-11", "iso8859-11", "iso885911", "tis-620", "windows-874"]),
   (.singleByte .windows1250, ["cp1250", "windows-1250", "x-cp1250"]),
   (.singleByte .windows1251, ["cp1251", "windows-1251", "x-cp1251"]),
   (.singleByte .windows1252,
    ["ansi_x3.4-1968", "ascii", "cp1252", "cp819", "csisolatin1", "ibm819", "iso-8859-1",
     "iso-ir-100", "iso8859-1", "iso88591", "iso_8859-1", "iso_8859-1:1987", "l1", "latin1",
     "us-ascii", "windows-1252", "x-cp1252"]),
   (.singleByte .windows1253, ["cp1253", "windows-1253", "x-cp1253"]),
   (.singleByte .windows1254,
    ["cp1254", "csisolatin5", "iso-8859-9", "iso-ir-148", "iso8859-9", "iso88599", "iso_8859-9",
     "iso_8859-9:1989", "l5", "latin5", "windows-1254", "x-cp1254"]),
   (.singleByte .windows1255, ["cp1255", "windows-1255", "x-cp1255"]),
   (.singleByte .windows1256, ["cp1256", "windows-1256", "x-cp1256"]),
   (.singleByte .windows1257, ["cp1257", "windows-1257", "x-cp1257"]),
   (.singleByte .windows1258, ["cp1258", "windows-1258", "x-cp1258"]),
   (.singleByte .macCyrillic, ["x-mac-cyrillic", "x-mac-ukrainian"]),
   (.gb18030,
    ["chinese", "csgb2312", "csiso58gb231280", "gb18030", "gb2312", "gb_2312", "gb_2312-80",
     "gbk", "iso-ir-58", "x-gbk"]),
   (.big5, ["big5", "big5-hkscs", "cn-big5", "csbig5", "x-x-big5"]),
   (.eucJp, ["cseucpkdfmtjapanese", "euc-jp", "x-euc-jp"]),
   (.iso2022Jp, ["csiso2022jp", "iso-2022-jp"]),
   (.shiftJis,
    ["csshiftjis", "ms932", "ms_kanji", "shift-jis", "shift_jis", "sjis", "windows-31j",
     "x-sjis"]),
   (.eucKr,
    ["cseuckr", "csksc56011987", "euc-kr", "iso-ir-149", "korean", "ks_c_5601-1987",
     "ks_c_5601-1989", "ksc5601", "ksc_5601", "windows-949"]),
   (.refused,
    ["csiso2022kr", "hz-gb-2312", "iso-2022-cn", "iso-2022-cn-ext", "iso-2022-kr",
     "replacement"]),
   (.utf16 .bigEndian, ["unicodefffe", "utf-16be"]),
   (.utf16 .littleEndian,
    ["csunicode", "iso-10646-ucs-2", "ucs-2", "unicode", "unicodefeff", "utf-16", "utf-16le"]),
   (.userDefined, ["x-user-defined"])]

/-- Blanks that may surround a label. -/
def isLabelBlank (c : Char) : Bool := [0x9, 0xA, 0xC, 0xD, 0x20].contains c.toNat

/-- The charset that a label names, if it names one. -/
def ofLabel? (label : String) : Option Charset :=
  let inner := ((label.toList.dropWhile isLabelBlank).reverse.dropWhile isLabelBlank).reverse
  let name := lower (String.ofList inner)
  (labels.find? fun entry => entry.2.contains name).map Prod.fst

end Charset
end Text
end MeteredChecker
