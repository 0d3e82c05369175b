/-
  ScriptingBindings.Markup.Encoding.CodePage
  ──────────────────────────────────
  **CODE PAGES.**

  An encoding of one byte a character.  Up to 0x7F the bytes are those of ASCII,
  with few exceptions; above, each encoding has characters of its own.  Where a
  byte has no character the table has U+FFFD.
-/

namespace ScriptingBindings.Markup

/-- An encoding of one byte a character. -/
structure CodePage where
  /-- Its names in capital letters. -/
  names : List String
  /-- The code points of bytes that are not those of ASCII; zero stands for none. -/
  low : List (Nat × Nat) := []
  /-- The bytes from 0x80 up to this one stand for themselves. -/
  start : Nat := 0x80
  /-- The characters of the bytes from `start` on; line feeds between them do not count. -/
  high : String := ""

namespace CodePage

/-- The code point of a byte, given the characters of the bytes from `start` on. -/
def codePoint? (p : CodePage) (high : Array Char) (byte : Nat) : Option Nat :=
  if byte < 0x80 then
    match p.low.lookup byte with
    | some 0 => none
    | some n => some n
    | none => some byte
  else if byte < p.start then some byte
  else (high[byte - p.start]?.map Char.toNat).filter (· != 0xFFFD)

/-- The characters of bytes, after characters that are done, the last one first. -/
def decodeAfter (p : CodePage) (high : Array Char) (done : List Char) :
    List Nat → Option (List Char)
  | [] => some done.reverse
  | byte :: rest =>
    match p.codePoint? high byte with
    | some n => decodeAfter p high (Char.ofNat n :: done) rest
    | none => none

/-- The characters of bytes. -/
def decode? (p : CodePage) (bytes : List Nat) : Option (List Char) :=
  p.decodeAfter (p.high.toList.filter (· != '\n')).toArray [] bytes

/-- The code pages. -/
def all : List CodePage :=
  [ { names := ["US-ASCII", "ASCII", "ISO646-US", "ISO-IR-6", "ANSI_X3.4-1968", "ANSI_X3.4-1986",
                "CP367", "IBM367", "US", "CSASCII"] },
    { names := ["ISO-8859-1", "ISO-LATIN-1", "ISO-IR-100", "ISO8859-1", "ISO_8859-1", "CP819",
                "IBM819", "L1", "LATIN1", "CSISOLATIN1"],
      start := 0x100 },
    { names := ["ISO-8859-2", "ISO-IR-101", "ISO8859-2", "ISO_8859-2", "L2", "LATIN2",
                "CSISOLATIN2", "ISO-LATIN-2"],
      start := 0xA1,
      high :=
"Ą˘Ł¤ĽŚ§¨ŠŞŤŹ\u00adŽŻ°ą˛ł´ľśˇ¸šşťź˝žżŔÁÂĂÄĹĆÇČÉĘËĚÍÎĎĐŃŇÓÔŐÖ×ŘŮÚŰÜÝŢßŕáâăäĺćç
čéęëěíîďđńňóôőö÷řůúűüýţ˙" },
    { names := ["ISO-8859-3", "ISO-IR-109", "ISO8859-3", "ISO_8859-3", "L3", "LATIN3",
                "CSISOLATIN3"],
      start := 0xA1,
      high :=
"Ħ˘£¤�Ĥ§¨İŞĞĴ\u00ad�Ż°ħ²³´µĥ·¸ışğĵ½�żÀÁÂ�ÄĊĈÇÈÉÊËÌÍÎÏ�ÑÒÓÔĠÖ×ĜÙÚÛÜŬŜßàáâ�äċĉç
èéêëìíîï�ñòóôġö÷ĝùúûüŭŝ˙" },
    { names := ["ISO-8859-4", "ISO-IR-110", "ISO8859-4", "ISO_8859-4", "L4", "LATIN4",
                "CSISOLATIN4"],
      start := 0xA1,
      high :=
"ĄĸŖ¤ĨĻ§¨ŠĒĢŦ\u00adŽ¯°ą˛ŗ´ĩļˇ¸šēģŧŊžŋĀÁÂÃÄÅÆĮČÉĘËĖÍÎĪĐŅŌĶÔÕÖ×ØŲÚÛÜŨŪßāáâãäåæį
čéęëėíîīđņōķôõö÷øųúûüũū˙" },
    { names := ["ISO-8859-5", "CYRILLIC", "ISO-IR-144", "ISO8859-5", "ISO_8859-5",
                "CSISOLATINCYRILLIC"],
      start := 0xA1,
      high :=
"ЁЂЃЄЅІЇЈЉЊЋЌ\u00adЎЏАБВГДЕЖЗИЙКЛМНОПРСТУФХЦЧШЩЪЫЬЭЮЯабвгдежзийклмнопрстуфхцч
шщъыьэюя№ёђѓєѕіїјљњћќ§ўџ" },
    { names := ["ISO-8859-6", "ARABIC", "ASMO-708", "ECMA-114", "ISO-IR-127", "ISO8859-6",
                "ISO_8859-6", "CSISOLATINARABIC"],
      start := 0xA1,
      high :=
"���¤�������\u060c\u00ad�������������\u061b���\u061f�\u0621\u0622\u0623\u0624
\u0625\u0626\u0627\u0628\u0629\u062a\u062b\u062c\u062d\u062e\u062f\u0630
\u0631\u0632\u0633\u0634\u0635\u0636\u0637\u0638\u0639\u063a�����\u0640
\u0641\u0642\u0643\u0644\u0645\u0646\u0647\u0648\u0649\u064a\u064b\u064c
\u064d\u064e\u064f\u0650\u0651\u0652" },
    { names := ["ISO-8859-7", "ECMA-118", "ELOT_928", "GREEK", "GREEK8", "ISO-IR-126",
                "ISO8859-7", "ISO_8859-7", "CSISOLATINGREEK"],
      start := 0xA1,
      high :=
"‘’£€₯¦§¨©ͺ«¬\u00ad�―°±²³΄΅Ά·ΈΉΊ»Ό½ΎΏΐΑΒΓΔΕΖΗΘΙΚΛΜΝΞΟΠΡ�ΣΤΥΦΧΨΩΪΫάέήίΰαβγδεζη
θικλμνξοπρςστυφχψωϊϋόύώ" },
    { names := ["ISO-8859-8", "HEBREW", "ISO-IR-138", "ISO8859-8", "ISO_8859-8",
                "CSISOLATINHEBREW"],
      start := 0xA1,
      high :=
"�¢£¤¥¦§¨©×«¬\u00ad®¯°±²³´µ¶·¸¹÷»¼½¾��������������������������������‗\u05d0
\u05d1\u05d2\u05d3\u05d4\u05d5\u05d6\u05d7\u05d8\u05d9\u05da\u05db\u05dc
\u05dd\u05de\u05df\u05e0\u05e1\u05e2\u05e3\u05e4\u05e5\u05e6\u05e7\u05e8
\u05e9\u05ea��\u200e\u200f" },
    { names := ["ISO-8859-9", "ISO-IR-148", "ISO8859-9", "ISO_8859-9", "L5", "LATIN5",
                "CSISOLATIN5"],
      start := 0xD0,
      high :=
"ĞÑÒÓÔÕÖ×ØÙÚÛÜİŞßàáâãäåæçèéêëìíîïğñòóôõö÷øùúûüışÿ" },
    { names := ["ISO-8859-10", "ISO-IR-157", "ISO8859-10", "ISO_8859-10", "L6", "LATIN6",
                "CSISOLATIN6"],
      start := 0xA1,
      high :=
"ĄĒĢĪĨĶ§ĻĐŠŦŽ\u00adŪŊ°ąēģīĩķ·ļđšŧž―ūŋĀÁÂÃÄÅÆĮČÉĘËĖÍÎÏÐŅŌÓÔÕÖŨØŲÚÛÜÝÞßāáâãäåæį
čéęëėíîïðņōóôõöũøųúûüýþĸ" },
    { names := ["ISO-8859-11", "ISO8859-11", "ISO_8859-11"],
      start := 0xA1,
      high :=
"กขฃคฅฆงจฉชซฌญฎฏฐฑฒณดตถทธนบปผฝพฟภมยรฤลฦวศษสหฬอฮฯะ\u0e31าำ\u0e34\u0e35\u0e36
\u0e37\u0e38\u0e39\u0e3a����฿เแโใไๅๆ\u0e47\u0e48\u0e49\u0e4a\u0e4b\u0e4c
\u0e4d\u0e4e๏๐๑๒๓๔๕๖๗๘๙๚๛" },
    { names := ["ISO-8859-13", "ISO-IR-179", "ISO8859-13", "ISO_8859-13", "L7", "LATIN7"],
      start := 0xA1,
      high :=
"”¢£¤„¦§Ø©Ŗ«¬\u00ad®Æ°±²³“µ¶·ø¹ŗ»¼½¾æĄĮĀĆÄÅĘĒČÉŹĖĢĶĪĻŠŃŅÓŌÕÖ×ŲŁŚŪÜŻŽßąįāćäåęē
čéźėģķīļšńņóōõö÷ųłśūüżž’" },
    { names := ["ISO-8859-14", "ISO-CELTIC", "ISO-IR-199", "ISO8859-14", "ISO_8859-14", "L8",
                "LATIN8"],
      start := 0xA1,
      high :=
"Ḃḃ£ĊċḊ§Ẁ©ẂḋỲ\u00ad®ŸḞḟĠġṀṁ¶ṖẁṗẃṠỳẄẅṡÀÁÂÃÄÅÆÇÈÉÊËÌÍÎÏŴÑÒÓÔÕÖṪØÙÚÛÜÝŶßàáâãäåæç
èéêëìíîïŵñòóôõöṫøùúûüýŷÿ" },
    { names := ["ISO-8859-15", "ISO-IR-203", "ISO8859-15", "ISO_8859-15", "LATIN-9"],
      start := 0xA4,
      high :=
"€¥Š§š©ª«¬\u00ad®¯°±²³Žµ¶·ž¹º»ŒœŸ¿ÀÁÂÃÄÅÆÇÈÉÊËÌÍÎÏÐÑÒÓÔÕÖ×ØÙÚÛÜÝÞßàáâãäåæçèéê
ëìíîïðñòóôõö÷øùúûüýþÿ" },
    { names := ["ISO-8859-16", "ISO-IR-226", "ISO8859-16", "ISO_8859-16", "L10", "LATIN10"],
      start := 0xA1,
      high :=
"ĄąŁ€„Š§š©Ș«Ź\u00adźŻ°±ČłŽ”¶·žčș»ŒœŸżÀÁÂĂÄĆÆÇÈÉÊËÌÍÎÏĐŃÒÓÔŐÖŚŰÙÚÛÜĘȚßàáâăäćæç
èéêëìíîïđńòóôőöśűùúûüęțÿ" },
    { names := ["KOI8-R", "CSKOI8R"],
      high :=
"─│┌┐└┘├┤┬┴┼▀▄█▌▐░▒▓⌠■∙√≈≤≥\u00a0⌡°²·÷═║╒ё╓╔╕╖╗╘╙╚╛╜╝╞╟╠╡Ё╢╣╤╥╦╧╨╩╪╫╬©юабцдеф
гхийклмнопярстужвьызшэщчъЮАБЦДЕФГХИЙКЛМНОПЯРСТУЖВЬЫЗШЭЩЧЪ" },
    { names := ["KOI8-U"],
      high :=
"─│┌┐└┘├┤┬┴┼▀▄█▌▐░▒▓⌠■∙√≈≤≥\u00a0⌡°²·÷═║╒ёє╔ії╗╘╙╚╛ґ╝╞╟╠╡ЁЄ╣ІЇ╦╧╨╩╪Ґ╬©юабцдеф
гхийклмнопярстужвьызшэщчъЮАБЦДЕФГХИЙКЛМНОПЯРСТУЖВЬЫЗШЭЩЧЪ" },
    { names := ["KOI8-RU"],
      high :=
"─│┌┐└┘├┤┬┴┼▀▄█▌▐░▒▓“■∙”—№™\u00a0»®«·¤═║╒ёє╔ії╗╘╙╚╛ґў╞╟╠╡ЁЄ╣ІЇ╦╧╨╩╪ҐЎ©юабцдеф
гхийклмнопярстужвьызшэщчъЮАБЦДЕФГХИЙКЛМНОПЯРСТУЖВЬЫЗШЭЩЧЪ" },
    { names := ["KOI8-T"],
      high :=
"қғ‚Ғ„…†‡�‰ҳ‹ҲҷҶ�Қ‘’“”•–—�™�›�����ӯӮё¤ӣ¦§���«¬\u00ad®�°±²Ё�Ӣ¶·�№�»���©юабцдеф
гхийклмнопярстужвьызшэщчъЮАБЦДЕФГХИЙКЛМНОПЯРСТУЖВЬЫЗШЭЩЧЪ" },
    { names := ["WINDOWS-1250", "CP1250", "MS-EE"],
      high :=
"€�‚�„…†‡�‰Š‹ŚŤŽŹ�‘’“”•–—�™š›śťžź\u00a0ˇ˘Ł¤Ą¦§¨©Ş«¬\u00ad®Ż°±˛ł´µ¶·¸ąş»Ľ˝ľżŔÁ
ÂĂÄĹĆÇČÉĘËĚÍÎĎĐŃŇÓÔŐÖ×ŘŮÚŰÜÝŢßŕáâăäĺćçčéęëěíîďđńňóôőö÷řůúűüýţ˙" },
    { names := ["WINDOWS-1251", "CP1251", "MS-CYRL"],
      high :=
"ЂЃ‚ѓ„…†‡€‰Љ‹ЊЌЋЏђ‘’“”•–—�™љ›њќћџ\u00a0ЎўЈ¤Ґ¦§Ё©Є«¬\u00ad®Ї°±Ііґµ¶·ё№є»јЅѕїАБ
ВГДЕЖЗИЙКЛМНОПРСТУФХЦЧШЩЪЫЬЭЮЯабвгдежзийклмнопрстуфхцчшщъыьэюя" },
    { names := ["WINDOWS-1252", "CP1252", "MS-ANSI"],
      high :=
"€�‚ƒ„…†‡ˆ‰Š‹Œ�Ž��‘’“”•–—˜™š›œ�žŸ\u00a0¡¢£¤¥¦§¨©ª«¬\u00ad®¯°±²³´µ¶·¸¹º»¼½¾¿ÀÁ
ÂÃÄÅÆÇÈÉÊËÌÍÎÏÐÑÒÓÔÕÖ×ØÙÚÛÜÝÞßàáâãäåæçèéêëìíîïðñòóôõö÷øùúûüýþÿ" },
    { names := ["WINDOWS-1253", "CP1253", "MS-GREEK"],
      high :=
"€�‚ƒ„…†‡�‰�‹�����‘’“”•–—�™�›����\u00a0΅Ά£¤¥¦§¨©�«¬\u00ad®―°±²³΄µ¶·ΈΉΊ»Ό½ΎΏΐΑ
ΒΓΔΕΖΗΘΙΚΛΜΝΞΟΠΡ�ΣΤΥΦΧΨΩΪΫάέήίΰαβγδεζηθικλμνξοπρςστυφχψωϊϋόύώ" },
    { names := ["WINDOWS-1254", "CP1254", "MS-TURK"],
      high :=
"€�‚ƒ„…†‡ˆ‰Š‹Œ����‘’“”•–—˜™š›œ��Ÿ\u00a0¡¢£¤¥¦§¨©ª«¬\u00ad®¯°±²³´µ¶·¸¹º»¼½¾¿ÀÁ
ÂÃÄÅÆÇÈÉÊËÌÍÎÏĞÑÒÓÔÕÖ×ØÙÚÛÜİŞßàáâãäåæçèéêëìíîïğñòóôõö÷øùúûüışÿ" },
    { names := ["WINDOWS-1255", "CP1255", "MS-HEBR"],
      high :=
"€�‚ƒ„…†‡ˆ‰�‹�����‘’“”•–—˜™�›����\u00a0¡¢£₪¥¦§¨©×«¬\u00ad®¯°±²³´µ¶·¸¹÷»¼½¾¿
\u05b0\u05b1\u05b2\u05b3\u05b4\u05b5\u05b6\u05b7\u05b8\u05b9�\u05bb\u05bc
\u05bd\u05be\u05bf\u05c0\u05c1\u05c2\u05c3\u05f0\u05f1\u05f2\u05f3\u05f4����
���\u05d0\u05d1\u05d2\u05d3\u05d4\u05d5\u05d6\u05d7\u05d8\u05d9\u05da\u05db
\u05dc\u05dd\u05de\u05df\u05e0\u05e1\u05e2\u05e3\u05e4\u05e5\u05e6\u05e7
\u05e8\u05e9\u05ea��\u200e\u200f" },
    { names := ["WINDOWS-1256", "CP1256", "MS-ARAB"],
      high :=
"€\u067e‚ƒ„…†‡ˆ‰\u0679‹Œ\u0686\u0698\u0688\u06af‘’“”•–—\u06a9™\u0691›œ\u200c
\u200d\u06ba\u00a0\u060c¢£¤¥¦§¨©\u06be«¬\u00ad®¯°±²³´µ¶·¸¹\u061b»¼½¾\u061f
\u06c1\u0621\u0622\u0623\u0624\u0625\u0626\u0627\u0628\u0629\u062a\u062b
\u062c\u062d\u062e\u062f\u0630\u0631\u0632\u0633\u0634\u0635\u0636×\u0637
\u0638\u0639\u063a\u0640\u0641\u0642\u0643à\u0644â\u0645\u0646\u0647\u0648çè
éêë\u0649\u064aîï\u064b\u064c\u064d\u064eô\u064f\u0650÷\u0651ù\u0652ûü\u200e
\u200f\u06d2" },
    { names := ["WINDOWS-1257", "CP1257", "WINBALTRIM"],
      high :=
"€�‚�„…†‡�‰�‹�¨ˇ¸�‘’“”•–—�™�›�¯˛�\u00a0�¢£¤�¦§Ø©Ŗ«¬\u00ad®Æ°±²³´µ¶·ø¹ŗ»¼½¾æĄĮ
ĀĆÄÅĘĒČÉŹĖĢĶĪĻŠŃŅÓŌÕÖ×ŲŁŚŪÜŻŽßąįāćäåęēčéźėģķīļšńņóōõö÷ųłśūüżž˙" },
    { names := ["WINDOWS-1258", "CP1258"],
      high :=
"€�‚ƒ„…†‡ˆ‰�‹Œ����‘’“”•–—˜™�›œ��Ÿ\u00a0¡¢£¤¥¦§¨©ª«¬\u00ad®¯°±²³´µ¶·¸¹º»¼½¾¿ÀÁ
ÂĂÄÅÆÇÈÉÊË\u0300ÍÎÏĐÑ\u0309ÓÔƠÖ×ØÙÚÛÜƯ\u0303ßàáâăäåæçèéêë\u0301íîïđñ\u0323óô
ơö÷øùúûüư₫ÿ" },
    { names := ["WINDOWS-874", "CP874"],
      high :=
"€����…�����������‘’“”•–—��������\u00a0กขฃคฅฆงจฉชซฌญฎฏฐฑฒณดตถทธนบปผฝพฟภมยรฤลฦ
วศษสหฬอฮฯะ\u0e31าำ\u0e34\u0e35\u0e36\u0e37\u0e38\u0e39\u0e3a����฿เแโใไๅๆ
\u0e47\u0e48\u0e49\u0e4a\u0e4b\u0e4c\u0e4d\u0e4e๏๐๑๒๓๔๕๖๗๘๙๚๛" },
    { names := ["CP850", "850", "IBM850", "CSPC850MULTILINGUAL"],
      high :=
"ÇüéâäàåçêëèïîìÄÅÉæÆôöòûùÿÖÜø£Ø×ƒáíóúñÑªº¿®¬½¼¡«»░▒▓│┤ÁÂÀ©╣║╗╝¢¥┐└┴┬├─┼ãÃ╚╔╩╦
╠═╬¤ðÐÊËÈıÍÎÏ┘┌█▄¦Ì▀ÓßÔÒõÕµþÞÚÛÙýÝ¯´\u00ad±‗¾¶§÷¸°¨·¹³²■\u00a0" },
    { names := ["CP862", "862", "IBM862", "CSPC862LATINHEBREW"],
      high :=
"\u05d0\u05d1\u05d2\u05d3\u05d4\u05d5\u05d6\u05d7\u05d8\u05d9\u05da\u05db
\u05dc\u05dd\u05de\u05df\u05e0\u05e1\u05e2\u05e3\u05e4\u05e5\u05e6\u05e7
\u05e8\u05e9\u05ea¢£¥₧ƒáíóúñÑªº¿⌐¬½¼¡«»░▒▓│┤╡╢╖╕╣║╗╝╜╛┐└┴┬├─┼╞╟╚╔╩╦╠═╬╧╨╤╥╙╘
╒╓╫╪┘┌█▄▌▐▀αßΓπΣσµτΦΘΩδ∞φε∩≡±≥≤⌠⌡÷≈°∙·√ⁿ²■\u00a0" },
    { names := ["CP866", "866", "IBM866", "CSIBM866"],
      high :=
"АБВГДЕЖЗИЙКЛМНОПРСТУФХЦЧШЩЪЫЬЭЮЯабвгдежзийклмноп░▒▓│┤╡╢╖╕╣║╗╝╜╛┐└┴┬├─┼╞╟╚╔╩╦
╠═╬╧╨╤╥╙╘╒╓╫╪┘┌█▄▌▐▀рстуфхцчшщъыьэюяЁёЄєЇїЎў°∙·√№¤■\u00a0" },
    { names := ["CP1133", "IBM-CP1133"],
      start := 0xA0,
      high :=
"�ກຂຄງຈສຊຍດຕຖທນບປຜຝພຟມຢຣລວຫອຮ���ຯະາຳ\u0eb4\u0eb5\u0eb6\u0eb7\u0eb8\u0eb9
\u0ebc\u0eb1\u0ebbຽ���ເແໂໃໄ\u0ec8\u0ec9\u0eca\u0ecb\u0ecc\u0ecdໆ�ໜໝk��������
��������໐໑໒໓໔໕໖໗໘໙��¢¬¦\u00a0" },
    { names := ["MACINTOSH", "MAC", "MACROMAN", "CSMACINTOSH"],
      high :=
"ÄÅÇÉÑÖÜáàâäãåçéèêëíìîïñóòôöõúùûü†°¢£§•¶ß®©™´¨≠ÆØ∞±≤≥¥µ∂∑∏π∫ªºΩæø¿¡¬√ƒ≈∆«»…
\u00a0ÀÃÕŒœ–—“”‘’÷◊ÿŸ⁄¤‹›ﬁﬂ‡·‚„‰ÂÊÁËÈÍÎÏÌÓÔ�ÒÚÛÙıˆ˜¯˘˙˚¸˝˛ˇ" },
    { names := ["MACCENTRALEUROPE"],
      high :=
"ÄĀāÉĄÖÜáąČäčĆćéŹźĎíďĒēĖóėôöõúĚěü†°Ę£§•¶ß®©™ę¨≠ģĮįĪ≤≥īĶ∂∑łĻļĽľĹĺŅņŃ¬√ńŇ∆«»…
\u00a0ňŐÕőŌ–—“”‘’÷◊ōŔŕŘ‹›řŖŗŠ‚„šŚśÁŤťÍŽžŪÓÔūŮÚůŰűŲųÝýķŻŁżĢˇ" },
    { names := ["MACICELAND"],
      high :=
"ÄÅÇÉÑÖÜáàâäãåçéèêëíìîïñóòôöõúùûüÝ°¢£§•¶ß®©™´¨≠ÆØ∞±≤≥¥µ∂∑∏π∫ªºΩæø¿¡¬√ƒ≈∆«»…
\u00a0ÀÃÕŒœ–—“”‘’÷◊ÿŸ⁄€ÐðÞþý·‚„‰ÂÊÁËÈÍÎÏÌÓÔ\uf8ffÒÚÛÙıˆ˜¯˘˙˚¸˝˛ˇ" },
    { names := ["MACCROATIAN"],
      high :=
"ÄÅÇÉÑÖÜáàâäãåçéèêëíìîïñóòôöõúùûü†°¢£§•¶ß®Š™´¨≠ŽØ∞±≤≥∆µ∂∑∏š∫ªºΩžø¿¡¬√ƒ≈Ć«Č…
\u00a0ÀÃÕŒœĐ—“”‘’÷◊\uf8ff©⁄€‹›Æ»–·‚„‰ÂćÁčÈÍÎÏÌÓÔđÒÚÛÙıˆ˜¯πË˚¸Êæˇ" },
    { names := ["MACROMANIA"],
      high :=
"ÄÅÇÉÑÖÜáàâäãåçéèêëíìîïñóòôöõúùûü†°¢£§•¶ß®©™´¨≠ĂȘ∞±≤≥¥µ∂∑∏π∫ªºΩăș¿¡¬√ƒ≈∆«»…
\u00a0ÀÃÕŒœ–—“”‘’÷◊ÿŸ⁄€‹›Țț‡·‚„‰ÂÊÁËÈÍÎÏÌÓÔ\uf8ffÒÚÛÙıˆ˜¯˘˙˚¸˝˛ˇ" },
    { names := ["MACCYRILLIC"],
      high :=
"АБВГДЕЖЗИЙКЛМНОПРСТУФХЦЧШЩЪЫЬЭЮЯ†°Ґ£§•¶І®©™Ђђ≠Ѓѓ∞±≤≥іµґЈЄєЇїЉљЊњјЅ¬√ƒ≈∆«»…
\u00a0ЋћЌќѕ–—“”‘’÷„ЎўЏџ№Ёёяабвгдежзийклмнопрстуфхцчшщъыьэю€" },
    { names := ["MACUKRAINE"],
      high :=
"АБВГДЕЖЗИЙКЛМНОПРСТУФХЦЧШЩЪЫЬЭЮЯ†°Ґ£§•¶І®©™Ђђ≠Ѓѓ∞±≤≥іµґЈЄєЇїЉљЊњјЅ¬√ƒ≈∆«»…
\u00a0ЋћЌќѕ–—“”‘’÷„ЎўЏџ№Ёёяабвгдежзийклмнопрстуфхцчшщъыьэю¤" },
    { names := ["MACGREEK"],
      high :=
"Ä¹²É³ÖÜ΅àâä΄¨çéèêë£™îï•½‰ôö¦€ùûü†ΓΔΘΛΞΠß®©ΣΪ§≠°·Α±≤≥¥ΒΕΖΗΙΚΜΦΫΨΩάΝ¬ΟΡ≈Τ«»…
\u00a0ΥΧΆΈœ–―“”‘’÷ΉΊΌΎέήίόΏύαβψδεφγηιξκλμνοπώρστθωςχυζϊϋΐΰ\u00ad" },
    { names := ["MACTURKISH"],
      high :=
"ÄÅÇÉÑÖÜáàâäãåçéèêëíìîïñóòôöõúùûü†°¢£§•¶ß®©™´¨≠ÆØ∞±≤≥¥µ∂∑∏π∫ªºΩæø¿¡¬√ƒ≈∆«»…
\u00a0ÀÃÕŒœ–—“”‘’÷◊ÿŸĞğİıŞş‡·‚„‰ÂÊÁËÈÍÎÏÌÓÔ\uf8ffÒÚÛÙ\uf8a0ˆ˜¯˘˙˚¸˝˛ˇ" },
    { names := ["HP-ROMAN8", "R8", "ROMAN8", "CSHPROMAN8"],
      start := 0xA1,
      high :=
"ÀÂÈÊËÎÏ´ˋˆ¨˜ÙÛ₤¯Ýý°ÇçÑñ¡¿¤£¥§ƒ¢âêôûáéóúàèòùäëöüÅîØÆåíøæÄìÖÜÉïßÔÁÃãÐðÍÌÓÒÕõŠš
ÚŸÿÞþ·µ¶¾—¼½ªº«■»±" },
    { names := ["ARMSCII-8"],
      start := 0xA1,
      high :=
"�և։)(»«—.՝,-֊…՜՛՞ԱաԲբԳգԴդԵեԶզԷէԸըԹթԺժԻիԼլԽխԾծԿկՀհՁձՂղՃճՄմՅյՆնՇշՈոՉչՊպՋջՌռՍսՎ
վՏտՐրՑցՒւՓփՔքՕօՖֆ՚" },
    { names := ["GEORGIAN-ACADEMY"],
      start := 0x82,
      high :=
"‚ƒ„…†‡ˆ‰Š‹Œ\u008d\u008e\u008f\u0090‘’“”•–—˜™š›œ\u009d\u009eŸ\u00a0¡¢£¤¥¦§¨©ª
«¬\u00ad®¯°±²³´µ¶·¸¹º»¼½¾¿აბგდევზთიკლმნოპჟრსტუფქღყშჩცძწჭხჯჰჱჲჳჴჵჶçèéêëìíîïðñ
òóôõö÷øùúûüýþÿ" },
    { names := ["GEORGIAN-PS"],
      start := 0x82,
      high :=
"‚ƒ„…†‡ˆ‰Š‹Œ\u008d\u008e\u008f\u0090‘’“”•–—˜™š›œ\u009d\u009eŸ\u00a0¡¢£¤¥¦§¨©ª
«¬\u00ad®¯°±²³´µ¶·¸¹º»¼½¾¿აბგდევზჱთიკლმნჲოპჟრსტჳუფქღყშჩცძწჭხჴჯჰჵæçèéêëìíîïðñ
òóôõö÷øùúûüýþÿ" },
    { names := ["PT154", "CP154", "CYRILLIC-ASIAN", "PTCP154", "CSPTCP154"],
      high :=
"ҖҒӮғ„…ҶҮҲүҠӢҢҚҺҸҗ‘’“”•–—ҳҷҡӣңқһҹ\u00a0ЎўЈӨҘҰ§Ё©Ә«¬ӯ®Ҝ°ұІіҙө¶·ё№ә»јҪҫҝАБВГДЕЖ
ЗИЙКЛМНОПРСТУФХЦЧШЩЪЫЬЭЮЯабвгдежзийклмнопрстуфхцчшщъыьэюя" },
    { names := ["RK1048", "KZ-1048", "STRK1048-2002", "CSKZ1048"],
      high :=
"ЂЃ‚ѓ„…†‡€‰Љ‹ЊҚҺЏђ‘’“”•–—�™љ›њқһџ\u00a0ҰұӘ¤Ө¦§Ё©Ғ«¬\u00ad®Ү°±Ііөµ¶·ё№ғ»әҢңүАБ
ВГДЕЖЗИЙКЛМНОПРСТУФХЦЧШЩЪЫЬЭЮЯабвгдежзийклмнопрстуфхцчшщъыьэюя" },
    { names := ["TIS-620", "ISO-IR-166", "TIS620", "TIS620-0"],
      start := 0xA0,
      high :=
"�กขฃคฅฆงจฉชซฌญฎฏฐฑฒณดตถทธนบปผฝพฟภมยรฤลฦวศษสหฬอฮฯะ\u0e31าำ\u0e34\u0e35\u0e36
\u0e37\u0e38\u0e39\u0e3a����฿เแโใไๅๆ\u0e47\u0e48\u0e49\u0e4a\u0e4b\u0e4c
\u0e4d\u0e4e๏๐๑๒๓๔๕๖๗๘๙๚๛" },
    { names := ["VISCII", "CSVISCII"],
      low := [(0x2, 0x1EB2), (0x5, 0x1EB4), (0x6, 0x1EAA), (0x14, 0x1EF6), (0x19, 0x1EF8), (0x1E, 0x1EF4)],
      high :=
"ẠẮẰẶẤẦẨẬẼẸẾỀỂỄỆỐỒỔỖỘỢỚỜỞỊỎỌỈỦŨỤỲÕắằặấầẩậẽẹếềểễệốồổỗỠƠộờởịỰỨỪỬơớƯÀÁÂÃẢĂẳẵÈÉÊẺ
ÌÍĨỳĐứÒÓÔạỷừửÙÚỹỵÝỡưàáâãảăữẫèéêẻìíĩỉđựòóôõỏọụùúũủýợỮ" },
    { names := ["ISO646-JP", "ISO-IR-14", "JIS_C6220-1969-RO", "JP", "CSISO14JISC6220RO"],
      low := [(0x5C, 0xA5), (0x7E, 0x203E)] },
    { names := ["JIS_X0201", "JISX0201-1976", "X0201", "CSHALFWIDTHKATAKANA"],
      low := [(0x5C, 0xA5), (0x7E, 0x203E)],
      high :=
"���������������������������������｡｢｣､･ｦｧｨｩｪｫｬｭｮｯｰｱｲｳｴｵｶｷｸｹｺｻｼｽｾｿﾀﾁﾂﾃﾄﾅﾆﾇﾈﾉﾊﾋ
ﾌﾍﾎﾏﾐﾑﾒﾓﾔﾕﾖﾗﾘﾙﾚﾛﾜﾝﾞﾟ" },
    { names := ["ISO646-CN", "CN", "GB_1988-80", "ISO-IR-57", "CSISO57GB1988"],
      low := [(0x24, 0xA5), (0x7E, 0x203E)] },
    { names := ["ISO-2022-JP", "CSISO2022JP", "ISO-2022-JP-1", "ISO-2022-JP-2", "CSISO2022JP2",
                "ISO-2022-CN", "CSISO2022CN", "ISO-2022-CN-EXT", "ISO-2022-KR", "CSISO2022KR"] },
    { names := ["HZ", "HZ-GB-2312"],
      low := [(0x7E, 0x0)] } ]

end CodePage

end ScriptingBindings.Markup
