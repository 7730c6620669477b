/-!
# Charsets of single octets

In these charsets an octet is a character, and the octets below 80 are the ones of
ASCII.  What tells them apart is the rest, and even of that the first part is often
plain: up to a certain octet the character is the one with the same number.  From
there on a charset lists its characters.  A low line in the list stands for no character: its octet
means nothing.
-/

namespace MeteredChecker
namespace Text

/-- A charset of single octets: the octet at which its list begins, and the list. -/
structure SingleByte where
  first : Nat
  list : String
  deriving DecidableEq, Repr

namespace SingleByte

/-- The character of an octet. -/
def char (c : SingleByte) (b : UInt8) : Char :=
  if b.toNat < c.first then Char.ofNat b.toNat
  else
    match c.list.toList[b.toNat - c.first]? with
    | some d => if d = '_' then '\uFFFD' else d
    | none => '\uFFFD'

/-- The charset `IBM866`. -/
def ibm866 : SingleByte :=
  ⟨0x80,
   "АБВГДЕЖЗИЙКЛМНОПРСТУФХЦЧШЩЪЫЬЭЮЯабвгдежзийклмноп░▒▓│┤╡╢╖╕╣║╗╝╜╛┐└┴┬├─┼╞╟╚╔╩╦╠═╬╧╨╤╥╙╘╒╓╫╪┘┌█" ++
   "▄▌▐▀рстуфхцчшщъыьэюяЁёЄєЇїЎў°∙·√№¤■\xa0"⟩

/-- The charset `ISO-8859-2`. -/
def iso8859Part2 : SingleByte :=
  ⟨0xA1,
   "Ą˘Ł¤ĽŚ§¨ŠŞŤŹ\xadŽŻ°ą˛ł´ľśˇ¸šşťź˝žżŔÁÂĂÄĹĆÇČÉĘËĚÍÎĎĐŃŇÓÔŐÖ×ŘŮÚŰÜÝŢßŕáâăäĺćçčéęëěíîďđńňóôőö÷řů" ++
   "úűüýţ˙"⟩

/-- The charset `ISO-8859-3`. -/
def iso8859Part3 : SingleByte :=
  ⟨0xA1,
   "Ħ˘£¤_Ĥ§¨İŞĞĴ\xad_Ż°ħ²³´µĥ·¸ışğĵ½_żÀÁÂ_ÄĊĈÇÈÉÊËÌÍÎÏ_ÑÒÓÔĠÖ×ĜÙÚÛÜŬŜßàáâ_äċĉçèéêëìíîï_ñòóôġö÷ĝù" ++
   "úûüŭŝ˙"⟩

/-- The charset `ISO-8859-4`. -/
def iso8859Part4 : SingleByte :=
  ⟨0xA1,
   "ĄĸŖ¤ĨĻ§¨ŠĒĢŦ\xadŽ¯°ą˛ŗ´ĩļˇ¸šēģŧŊžŋĀÁÂÃÄÅÆĮČÉĘËĖÍÎĪĐŅŌĶÔÕÖ×ØŲÚÛÜŨŪßāáâãäåæįčéęëėíîīđņōķôõö÷øų" ++
   "úûüũū˙"⟩

/-- The charset `ISO-8859-5`. -/
def iso8859Part5 : SingleByte :=
  ⟨0xA1,
   "ЁЂЃЄЅІЇЈЉЊЋЌ\xadЎЏАБВГДЕЖЗИЙКЛМНОПРСТУФХЦЧШЩЪЫЬЭЮЯабвгдежзийклмнопрстуфхцчшщъыьэюя№ёђѓєѕіїјљ" ++
   "њћќ§ўџ"⟩

/-- The charset `ISO-8859-6`. -/
def iso8859Part6 : SingleByte :=
  ⟨0xA1,
   "___¤_______،\xad_____________\u061B___\u061F_\u0621\u0622\u0623\u0624\u0625\u0626\u0627" ++
   "\u0628\u0629\u062A\u062B\u062C\u062D\u062E\u062F\u0630\u0631\u0632\u0633\u0634\u0635\u0636" ++
   "\u0637\u0638\u0639\u063A_____\u0640\u0641\u0642\u0643\u0644\u0645\u0646\u0647\u0648\u0649" ++
   "\u064A\u064B\u064C\u064D\u064E\u064F\u0650\u0651\u0652_____________"⟩

/-- The charset `ISO-8859-7`. -/
def iso8859Part7 : SingleByte :=
  ⟨0xA1,
   "‘’£€₯¦§¨©ͺ«¬\xad_―°±²³΄΅Ά·ΈΉΊ»Ό½ΎΏΐΑΒΓΔΕΖΗΘΙΚΛΜΝΞΟΠΡ_ΣΤΥΦΧΨΩΪΫάέήίΰαβγδεζηθικλμνξοπρςστυφχψω" ++
   "ϊϋόύώ_"⟩

/-- The charset `ISO-8859-8`. -/
def iso8859Part8 : SingleByte :=
  ⟨0xA1,
   "_¢£¤¥¦§¨©×«¬\xad®¯°±²³´µ¶·¸¹÷»¼½¾________________________________‗\u05D0\u05D1\u05D2\u05D3" ++
   "\u05D4\u05D5\u05D6\u05D7\u05D8\u05D9\u05DA\u05DB\u05DC\u05DD\u05DE\u05DF\u05E0\u05E1\u05E2" ++
   "\u05E3\u05E4\u05E5\u05E6\u05E7\u05E8\u05E9\u05EA__\u200E\u200F_"⟩

/-- The charset `ISO-8859-10`. -/
def iso8859Part10 : SingleByte :=
  ⟨0xA1,
   "ĄĒĢĪĨĶ§ĻĐŠŦŽ\xadŪŊ°ąēģīĩķ·ļđšŧž―ūŋĀÁÂÃÄÅÆĮČÉĘËĖÍÎÏÐŅŌÓÔÕÖŨØŲÚÛÜÝÞßāáâãäåæįčéęëėíîïðņōóôõöũøų" ++
   "úûüýþĸ"⟩

/-- The charset `ISO-8859-13`. -/
def iso8859Part13 : SingleByte :=
  ⟨0xA1,
   "”¢£¤„¦§Ø©Ŗ«¬\xad®Æ°±²³“µ¶·ø¹ŗ»¼½¾æĄĮĀĆÄÅĘĒČÉŹĖĢĶĪĻŠŃŅÓŌÕÖ×ŲŁŚŪÜŻŽßąįāćäåęēčéźėģķīļšńņóōõö÷ųł" ++
   "śūüżž’"⟩

/-- The charset `ISO-8859-14`. -/
def iso8859Part14 : SingleByte :=
  ⟨0xA1,
   "Ḃḃ£ĊċḊ§Ẁ©ẂḋỲ\xad®ŸḞḟĠġṀṁ¶ṖẁṗẃṠỳẄẅṡÀÁÂÃÄÅÆÇÈÉÊËÌÍÎÏŴÑÒÓÔÕÖṪØÙÚÛÜÝŶßàáâãäåæçèéêëìíîïŵñòóôõöṫøù" ++
   "úûüýŷÿ"⟩

/-- The charset `ISO-8859-15`. -/
def iso8859Part15 : SingleByte :=
  ⟨0xA4,
   "€¥Š§š©ª«¬\xad®¯°±²³Žµ¶·ž¹º»ŒœŸ¿ÀÁÂÃÄÅÆÇÈÉÊËÌÍÎÏÐÑÒÓÔÕÖ×ØÙÚÛÜÝÞßàáâãäåæçèéêëìíîïðñòóôõö÷øùúûü" ++
   "ýþÿ"⟩

/-- The charset `ISO-8859-16`. -/
def iso8859Part16 : SingleByte :=
  ⟨0xA1,
   "ĄąŁ€„Š§š©Ș«Ź\xadźŻ°±ČłŽ”¶·žčș»ŒœŸżÀÁÂĂÄĆÆÇÈÉÊËÌÍÎÏĐŃÒÓÔŐÖŚŰÙÚÛÜĘȚßàáâăäćæçèéêëìíîïđńòóôőöśűù" ++
   "úûüęțÿ"⟩

/-- The charset `KOI8-R`. -/
def koi8r : SingleByte :=
  ⟨0x80,
   "─│┌┐└┘├┤┬┴┼▀▄█▌▐░▒▓⌠■∙√≈≤≥\xa0⌡°²·÷═║╒ё╓╔╕╖╗╘╙╚╛╜╝╞╟╠╡Ё╢╣╤╥╦╧╨╩╪╫╬©юабцдефгхийклмнопярстужвь" ++
   "ызшэщчъЮАБЦДЕФГХИЙКЛМНОПЯРСТУЖВЬЫЗШЭЩЧЪ"⟩

/-- The charset `KOI8-U`. -/
def koi8u : SingleByte :=
  ⟨0x80,
   "─│┌┐└┘├┤┬┴┼▀▄█▌▐░▒▓⌠■∙√≈≤≥\xa0⌡°²·÷═║╒ёє╔ії╗╘╙╚╛ґў╞╟╠╡ЁЄ╣ІЇ╦╧╨╩╪ҐЎ©юабцдефгхийклмнопярстужвь" ++
   "ызшэщчъЮАБЦДЕФГХИЙКЛМНОПЯРСТУЖВЬЫЗШЭЩЧЪ"⟩

/-- The charset `macintosh`. -/
def macintosh : SingleByte :=
  ⟨0x80,
   "ÄÅÇÉÑÖÜáàâäãåçéèêëíìîïñóòôöõúùûü†°¢£§•¶ß®©™´¨≠ÆØ∞±≤≥¥µ∂∑∏π∫ªºΩæø¿¡¬√ƒ≈∆«»…\xa0ÀÃÕŒœ–—“”‘’÷◊ÿ" ++
   "Ÿ⁄€‹›ﬁﬂ‡·‚„‰ÂÊÁËÈÍÎÏÌÓÔ\uF8FFÒÚÛÙıˆ˜¯˘˙˚¸˝˛ˇ"⟩

/-- The charset `windows-874`. -/
def windows874 : SingleByte :=
  ⟨0x80,
   "€\x81\x82\x83\x84…\x86\x87\x88\x89\x8a\x8b\x8c\x8d\x8e\x8f\x90‘’“”•–—\x98\x99\x9a\x9b\x9c" ++
   "\x9d\x9e\x9f\xa0กขฃคฅฆงจฉชซฌญฎฏฐฑฒณดตถทธนบปผฝพฟภมยรฤลฦวศษสหฬอฮฯะ\u0E31าำ\u0E34\u0E35\u0E36" ++
   "\u0E37\u0E38\u0E39\u0E3A____฿เแโใไๅๆ\u0E47\u0E48\u0E49\u0E4A\u0E4B\u0E4C\u0E4D\u0E4E๏๐๑๒๓๔๕๖" ++
   "๗๘๙๚๛____"⟩

/-- The charset `windows-1250`. -/
def windows1250 : SingleByte :=
  ⟨0x80,
   "€\x81‚\x83„…†‡\x88‰Š‹ŚŤŽŹ\x90‘’“”•–—\x98™š›śťžź\xa0ˇ˘Ł¤Ą¦§¨©Ş«¬\xad®Ż°±˛ł´µ¶·¸ąş»Ľ˝ľżŔÁÂĂÄĹĆ" ++
   "ÇČÉĘËĚÍÎĎĐŃŇÓÔŐÖ×ŘŮÚŰÜÝŢßŕáâăäĺćçčéęëěíîďđńňóôőö÷řůúűüýţ˙"⟩

/-- The charset `windows-1251`. -/
def windows1251 : SingleByte :=
  ⟨0x80,
   "ЂЃ‚ѓ„…†‡€‰Љ‹ЊЌЋЏђ‘’“”•–—\x98™љ›њќћџ\xa0ЎўЈ¤Ґ¦§Ё©Є«¬\xad®Ї°±Ііґµ¶·ё№є»јЅѕїАБВГДЕЖЗИЙКЛМНОПРСТ" ++
   "УФХЦЧШЩЪЫЬЭЮЯабвгдежзийклмнопрстуфхцчшщъыьэюя"⟩

/-- The charset `windows-1252`. -/
def windows1252 : SingleByte :=
  ⟨0x80,
   "€\x81‚ƒ„…†‡ˆ‰Š‹Œ\x8dŽ\x8f\x90‘’“”•–—˜™š›œ\x9džŸ\xa0¡¢£¤¥¦§¨©ª«¬\xad®¯°±²³´µ¶·¸¹º»¼½¾¿ÀÁÂÃÄÅÆ" ++
   "ÇÈÉÊËÌÍÎÏÐÑÒÓÔÕÖ×ØÙÚÛÜÝÞßàáâãäåæçèéêëìíîïðñòóôõö÷øùúûüýþÿ"⟩

/-- The charset `windows-1253`. -/
def windows1253 : SingleByte :=
  ⟨0x80,
   "€\x81‚ƒ„…†‡\x88‰\x8a‹\x8c\x8d\x8e\x8f\x90‘’“”•–—\x98™\x9a›\x9c\x9d\x9e\x9f\xa0΅Ά£¤¥¦§¨©_«¬" ++
   "\xad®―°±²³΄µ¶·ΈΉΊ»Ό½ΎΏΐΑΒΓΔΕΖΗΘΙΚΛΜΝΞΟΠΡ_ΣΤΥΦΧΨΩΪΫάέήίΰαβγδεζηθικλμνξοπρςστυφχψωϊϋόύώ_"⟩

/-- The charset `windows-1254`. -/
def windows1254 : SingleByte :=
  ⟨0x80,
   "€\x81‚ƒ„…†‡ˆ‰Š‹Œ\x8d\x8e\x8f\x90‘’“”•–—˜™š›œ\x9d\x9eŸ\xa0¡¢£¤¥¦§¨©ª«¬\xad®¯°±²³´µ¶·¸¹º»¼½¾¿À" ++
   "ÁÂÃÄÅÆÇÈÉÊËÌÍÎÏĞÑÒÓÔÕÖ×ØÙÚÛÜİŞßàáâãäåæçèéêëìíîïğñòóôõö÷øùúûüışÿ"⟩

/-- The charset `windows-1255`. -/
def windows1255 : SingleByte :=
  ⟨0x80,
   "€\x81‚ƒ„…†‡ˆ‰\x8a‹\x8c\x8d\x8e\x8f\x90‘’“”•–—˜™\x9a›\x9c\x9d\x9e\x9f\xa0¡¢£₪¥¦§¨©×«¬\xad®¯°±" ++
   "²³´µ¶·¸¹÷»¼½¾¿\u05B0\u05B1\u05B2\u05B3\u05B4\u05B5\u05B6\u05B7\u05B8\u05B9\u05BA\u05BB\u05BC" ++
   "\u05BD\u05BE\u05BF\u05C0\u05C1\u05C2\u05C3\u05F0\u05F1\u05F2\u05F3\u05F4_______\u05D0\u05D1" ++
   "\u05D2\u05D3\u05D4\u05D5\u05D6\u05D7\u05D8\u05D9\u05DA\u05DB\u05DC\u05DD\u05DE\u05DF\u05E0" ++
   "\u05E1\u05E2\u05E3\u05E4\u05E5\u05E6\u05E7\u05E8\u05E9\u05EA__\u200E\u200F_"⟩

/-- The charset `windows-1256`. -/
def windows1256 : SingleByte :=
  ⟨0x80,
   "€\u067E‚ƒ„…†‡ˆ‰\u0679‹Œ\u0686\u0698\u0688\u06AF‘’“”•–—\u06A9™\u0691›œ\u200C\u200D\u06BA\xa0،" ++
   "¢£¤¥¦§¨©\u06BE«¬\xad®¯°±²³´µ¶·¸¹\u061B»¼½¾\u061F\u06C1\u0621\u0622\u0623\u0624\u0625\u0626" ++
   "\u0627\u0628\u0629\u062A\u062B\u062C\u062D\u062E\u062F\u0630\u0631\u0632\u0633\u0634\u0635" ++
   "\u0636×\u0637\u0638\u0639\u063A\u0640\u0641\u0642\u0643à\u0644â\u0645\u0646\u0647\u0648çèéêë" ++
   "\u0649\u064Aîï\u064B\u064C\u064D\u064Eô\u064F\u0650÷\u0651ù\u0652ûü\u200E\u200F\u06D2"⟩

/-- The charset `windows-1257`. -/
def windows1257 : SingleByte :=
  ⟨0x80,
   "€\x81‚\x83„…†‡\x88‰\x8a‹\x8c¨ˇ¸\x90‘’“”•–—\x98™\x9a›\x9c¯˛\x9f\xa0_¢£¤_¦§Ø©Ŗ«¬\xad®Æ°±²³´µ¶·" ++
   "ø¹ŗ»¼½¾æĄĮĀĆÄÅĘĒČÉŹĖĢĶĪĻŠŃŅÓŌÕÖ×ŲŁŚŪÜŻŽßąįāćäåęēčéźėģķīļšńņóōõö÷ųłśūüżž˙"⟩

/-- The charset `windows-1258`. -/
def windows1258 : SingleByte :=
  ⟨0x80,
   "€\x81‚ƒ„…†‡ˆ‰\x8a‹Œ\x8d\x8e\x8f\x90‘’“”•–—˜™\x9a›œ\x9d\x9eŸ\xa0¡¢£¤¥¦§¨©ª«¬\xad®¯°±²³´µ¶·¸¹º" ++
   "»¼½¾¿ÀÁÂĂÄÅÆÇÈÉÊË\u0300ÍÎÏĐÑ\u0309ÓÔƠÖ×ØÙÚÛÜƯ\u0303ßàáâăäåæçèéêë\u0301íîïđñ\u0323óôơö÷øùúûüư" ++
   "₫ÿ"⟩

/-- The charset `x-mac-cyrillic`. -/
def macCyrillic : SingleByte :=
  ⟨0x80,
   "АБВГДЕЖЗИЙКЛМНОПРСТУФХЦЧШЩЪЫЬЭЮЯ†°Ґ£§•¶І®©™Ђђ≠Ѓѓ∞±≤≥іµґЈЄєЇїЉљЊњјЅ¬√ƒ≈∆«»…\xa0ЋћЌќѕ–—“”‘’÷„Ў" ++
   "ўЏџ№Ёёяабвгдежзийклмнопрстуфхцчшщъыьэю€"⟩

end SingleByte
end Text
end MeteredChecker
