import SchemaVisibility.Text.Hangul
import SchemaVisibility.Text.Hex

/-! # Names of characters

Unicode names its characters. `ofName?` knows the names of Latin, Greek and Cyrillic letters, of
punctuation, of common signs, of ideographs and of Korean syllables.
-/

namespace SchemaVisibility.Text.CharName

/-- Names of characters that follow each other, with commas between them, behind the number of the
first one. -/
def rows : List (Nat × String) :=
  [
    (0x0020, "SPACE,EXCLAMATION MARK,QUOTATION MARK,NUMBER SIGN,DOLLAR SIGN,PERCENT SIGN"),
    (0x0026, "AMPERSAND,APOSTROPHE,LEFT PARENTHESIS,RIGHT PARENTHESIS,ASTERISK,PLUS SIGN,COMMA"),
    (0x002D, "HYPHEN-MINUS,FULL STOP,SOLIDUS,DIGIT ZERO,DIGIT ONE,DIGIT TWO,DIGIT THREE"),
    (0x0034, "DIGIT FOUR,DIGIT FIVE,DIGIT SIX,DIGIT SEVEN,DIGIT EIGHT,DIGIT NINE,COLON"),
    (0x003B, "SEMICOLON,LESS-THAN SIGN,EQUALS SIGN,GREATER-THAN SIGN,QUESTION MARK"),
    (0x0040, "COMMERCIAL AT"),
    (0x005B, "LEFT SQUARE BRACKET,REVERSE SOLIDUS,RIGHT SQUARE BRACKET,CIRCUMFLEX ACCENT"),
    (0x005F, "LOW LINE,GRAVE ACCENT"),
    (0x007B, "LEFT CURLY BRACKET,VERTICAL LINE,RIGHT CURLY BRACKET,TILDE"),
    (0x00A0, "NO-BREAK SPACE,INVERTED EXCLAMATION MARK,CENT SIGN,POUND SIGN,CURRENCY SIGN"),
    (0x00A5, "YEN SIGN,BROKEN BAR,SECTION SIGN,DIAERESIS,COPYRIGHT SIGN"),
    (0x00AA, "FEMININE ORDINAL INDICATOR,LEFT-POINTING DOUBLE ANGLE QUOTATION MARK,NOT SIGN"),
    (0x00AD, "SOFT HYPHEN,REGISTERED SIGN,MACRON,DEGREE SIGN,PLUS-MINUS SIGN,SUPERSCRIPT TWO"),
    (0x00B3, "SUPERSCRIPT THREE,ACUTE ACCENT,MICRO SIGN,PILCROW SIGN,MIDDLE DOT,CEDILLA"),
    (0x00B9, "SUPERSCRIPT ONE,MASCULINE ORDINAL INDICATOR"),
    (0x00BB, "RIGHT-POINTING DOUBLE ANGLE QUOTATION MARK,VULGAR FRACTION ONE QUARTER"),
    (0x00BD, "VULGAR FRACTION ONE HALF,VULGAR FRACTION THREE QUARTERS,INVERTED QUESTION MARK"),
    (0x00C0, "LATIN CAPITAL LETTER A WITH GRAVE,LATIN CAPITAL LETTER A WITH ACUTE"),
    (0x00C2, "LATIN CAPITAL LETTER A WITH CIRCUMFLEX,LATIN CAPITAL LETTER A WITH TILDE"),
    (0x00C4, "LATIN CAPITAL LETTER A WITH DIAERESIS,LATIN CAPITAL LETTER A WITH RING ABOVE"),
    (0x00C6, "LATIN CAPITAL LETTER AE,LATIN CAPITAL LETTER C WITH CEDILLA"),
    (0x00C8, "LATIN CAPITAL LETTER E WITH GRAVE,LATIN CAPITAL LETTER E WITH ACUTE"),
    (0x00CA, "LATIN CAPITAL LETTER E WITH CIRCUMFLEX,LATIN CAPITAL LETTER E WITH DIAERESIS"),
    (0x00CC, "LATIN CAPITAL LETTER I WITH GRAVE,LATIN CAPITAL LETTER I WITH ACUTE"),
    (0x00CE, "LATIN CAPITAL LETTER I WITH CIRCUMFLEX,LATIN CAPITAL LETTER I WITH DIAERESIS"),
    (0x00D0, "LATIN CAPITAL LETTER ETH,LATIN CAPITAL LETTER N WITH TILDE"),
    (0x00D2, "LATIN CAPITAL LETTER O WITH GRAVE,LATIN CAPITAL LETTER O WITH ACUTE"),
    (0x00D4, "LATIN CAPITAL LETTER O WITH CIRCUMFLEX,LATIN CAPITAL LETTER O WITH TILDE"),
    (0x00D6, "LATIN CAPITAL LETTER O WITH DIAERESIS,MULTIPLICATION SIGN"),
    (0x00D8, "LATIN CAPITAL LETTER O WITH STROKE,LATIN CAPITAL LETTER U WITH GRAVE"),
    (0x00DA, "LATIN CAPITAL LETTER U WITH ACUTE,LATIN CAPITAL LETTER U WITH CIRCUMFLEX"),
    (0x00DC, "LATIN CAPITAL LETTER U WITH DIAERESIS,LATIN CAPITAL LETTER Y WITH ACUTE"),
    (0x00DE, "LATIN CAPITAL LETTER THORN,LATIN SMALL LETTER SHARP S"),
    (0x00E0, "LATIN SMALL LETTER A WITH GRAVE,LATIN SMALL LETTER A WITH ACUTE"),
    (0x00E2, "LATIN SMALL LETTER A WITH CIRCUMFLEX,LATIN SMALL LETTER A WITH TILDE"),
    (0x00E4, "LATIN SMALL LETTER A WITH DIAERESIS,LATIN SMALL LETTER A WITH RING ABOVE"),
    (0x00E6, "LATIN SMALL LETTER AE,LATIN SMALL LETTER C WITH CEDILLA"),
    (0x00E8, "LATIN SMALL LETTER E WITH GRAVE,LATIN SMALL LETTER E WITH ACUTE"),
    (0x00EA, "LATIN SMALL LETTER E WITH CIRCUMFLEX,LATIN SMALL LETTER E WITH DIAERESIS"),
    (0x00EC, "LATIN SMALL LETTER I WITH GRAVE,LATIN SMALL LETTER I WITH ACUTE"),
    (0x00EE, "LATIN SMALL LETTER I WITH CIRCUMFLEX,LATIN SMALL LETTER I WITH DIAERESIS"),
    (0x00F0, "LATIN SMALL LETTER ETH,LATIN SMALL LETTER N WITH TILDE"),
    (0x00F2, "LATIN SMALL LETTER O WITH GRAVE,LATIN SMALL LETTER O WITH ACUTE"),
    (0x00F4, "LATIN SMALL LETTER O WITH CIRCUMFLEX,LATIN SMALL LETTER O WITH TILDE"),
    (0x00F6, "LATIN SMALL LETTER O WITH DIAERESIS,DIVISION SIGN"),
    (0x00F8, "LATIN SMALL LETTER O WITH STROKE,LATIN SMALL LETTER U WITH GRAVE"),
    (0x00FA, "LATIN SMALL LETTER U WITH ACUTE,LATIN SMALL LETTER U WITH CIRCUMFLEX"),
    (0x00FC, "LATIN SMALL LETTER U WITH DIAERESIS,LATIN SMALL LETTER Y WITH ACUTE"),
    (0x00FE, "LATIN SMALL LETTER THORN,LATIN SMALL LETTER Y WITH DIAERESIS"),
    (0x0100, "LATIN CAPITAL LETTER A WITH MACRON,LATIN SMALL LETTER A WITH MACRON"),
    (0x0102, "LATIN CAPITAL LETTER A WITH BREVE,LATIN SMALL LETTER A WITH BREVE"),
    (0x0104, "LATIN CAPITAL LETTER A WITH OGONEK,LATIN SMALL LETTER A WITH OGONEK"),
    (0x0106, "LATIN CAPITAL LETTER C WITH ACUTE,LATIN SMALL LETTER C WITH ACUTE"),
    (0x0108, "LATIN CAPITAL LETTER C WITH CIRCUMFLEX,LATIN SMALL LETTER C WITH CIRCUMFLEX"),
    (0x010A, "LATIN CAPITAL LETTER C WITH DOT ABOVE,LATIN SMALL LETTER C WITH DOT ABOVE"),
    (0x010C, "LATIN CAPITAL LETTER C WITH CARON,LATIN SMALL LETTER C WITH CARON"),
    (0x010E, "LATIN CAPITAL LETTER D WITH CARON,LATIN SMALL LETTER D WITH CARON"),
    (0x0110, "LATIN CAPITAL LETTER D WITH STROKE,LATIN SMALL LETTER D WITH STROKE"),
    (0x0112, "LATIN CAPITAL LETTER E WITH MACRON,LATIN SMALL LETTER E WITH MACRON"),
    (0x0114, "LATIN CAPITAL LETTER E WITH BREVE,LATIN SMALL LETTER E WITH BREVE"),
    (0x0116, "LATIN CAPITAL LETTER E WITH DOT ABOVE,LATIN SMALL LETTER E WITH DOT ABOVE"),
    (0x0118, "LATIN CAPITAL LETTER E WITH OGONEK,LATIN SMALL LETTER E WITH OGONEK"),
    (0x011A, "LATIN CAPITAL LETTER E WITH CARON,LATIN SMALL LETTER E WITH CARON"),
    (0x011C, "LATIN CAPITAL LETTER G WITH CIRCUMFLEX,LATIN SMALL LETTER G WITH CIRCUMFLEX"),
    (0x011E, "LATIN CAPITAL LETTER G WITH BREVE,LATIN SMALL LETTER G WITH BREVE"),
    (0x0120, "LATIN CAPITAL LETTER G WITH DOT ABOVE,LATIN SMALL LETTER G WITH DOT ABOVE"),
    (0x0122, "LATIN CAPITAL LETTER G WITH CEDILLA,LATIN SMALL LETTER G WITH CEDILLA"),
    (0x0124, "LATIN CAPITAL LETTER H WITH CIRCUMFLEX,LATIN SMALL LETTER H WITH CIRCUMFLEX"),
    (0x0126, "LATIN CAPITAL LETTER H WITH STROKE,LATIN SMALL LETTER H WITH STROKE"),
    (0x0128, "LATIN CAPITAL LETTER I WITH TILDE,LATIN SMALL LETTER I WITH TILDE"),
    (0x012A, "LATIN CAPITAL LETTER I WITH MACRON,LATIN SMALL LETTER I WITH MACRON"),
    (0x012C, "LATIN CAPITAL LETTER I WITH BREVE,LATIN SMALL LETTER I WITH BREVE"),
    (0x012E, "LATIN CAPITAL LETTER I WITH OGONEK,LATIN SMALL LETTER I WITH OGONEK"),
    (0x0130, "LATIN CAPITAL LETTER I WITH DOT ABOVE,LATIN SMALL LETTER DOTLESS I"),
    (0x0132, "LATIN CAPITAL LIGATURE IJ,LATIN SMALL LIGATURE IJ"),
    (0x0134, "LATIN CAPITAL LETTER J WITH CIRCUMFLEX,LATIN SMALL LETTER J WITH CIRCUMFLEX"),
    (0x0136, "LATIN CAPITAL LETTER K WITH CEDILLA,LATIN SMALL LETTER K WITH CEDILLA"),
    (0x0138, "LATIN SMALL LETTER KRA,LATIN CAPITAL LETTER L WITH ACUTE"),
    (0x013A, "LATIN SMALL LETTER L WITH ACUTE,LATIN CAPITAL LETTER L WITH CEDILLA"),
    (0x013C, "LATIN SMALL LETTER L WITH CEDILLA,LATIN CAPITAL LETTER L WITH CARON"),
    (0x013E, "LATIN SMALL LETTER L WITH CARON,LATIN CAPITAL LETTER L WITH MIDDLE DOT"),
    (0x0140, "LATIN SMALL LETTER L WITH MIDDLE DOT,LATIN CAPITAL LETTER L WITH STROKE"),
    (0x0142, "LATIN SMALL LETTER L WITH STROKE,LATIN CAPITAL LETTER N WITH ACUTE"),
    (0x0144, "LATIN SMALL LETTER N WITH ACUTE,LATIN CAPITAL LETTER N WITH CEDILLA"),
    (0x0146, "LATIN SMALL LETTER N WITH CEDILLA,LATIN CAPITAL LETTER N WITH CARON"),
    (0x0148, "LATIN SMALL LETTER N WITH CARON,LATIN SMALL LETTER N PRECEDED BY APOSTROPHE"),
    (0x014A, "LATIN CAPITAL LETTER ENG,LATIN SMALL LETTER ENG"),
    (0x014C, "LATIN CAPITAL LETTER O WITH MACRON,LATIN SMALL LETTER O WITH MACRON"),
    (0x014E, "LATIN CAPITAL LETTER O WITH BREVE,LATIN SMALL LETTER O WITH BREVE"),
    (0x0150, "LATIN CAPITAL LETTER O WITH DOUBLE ACUTE,LATIN SMALL LETTER O WITH DOUBLE ACUTE"),
    (0x0152, "LATIN CAPITAL LIGATURE OE,LATIN SMALL LIGATURE OE"),
    (0x0154, "LATIN CAPITAL LETTER R WITH ACUTE,LATIN SMALL LETTER R WITH ACUTE"),
    (0x0156, "LATIN CAPITAL LETTER R WITH CEDILLA,LATIN SMALL LETTER R WITH CEDILLA"),
    (0x0158, "LATIN CAPITAL LETTER R WITH CARON,LATIN SMALL LETTER R WITH CARON"),
    (0x015A, "LATIN CAPITAL LETTER S WITH ACUTE,LATIN SMALL LETTER S WITH ACUTE"),
    (0x015C, "LATIN CAPITAL LETTER S WITH CIRCUMFLEX,LATIN SMALL LETTER S WITH CIRCUMFLEX"),
    (0x015E, "LATIN CAPITAL LETTER S WITH CEDILLA,LATIN SMALL LETTER S WITH CEDILLA"),
    (0x0160, "LATIN CAPITAL LETTER S WITH CARON,LATIN SMALL LETTER S WITH CARON"),
    (0x0162, "LATIN CAPITAL LETTER T WITH CEDILLA,LATIN SMALL LETTER T WITH CEDILLA"),
    (0x0164, "LATIN CAPITAL LETTER T WITH CARON,LATIN SMALL LETTER T WITH CARON"),
    (0x0166, "LATIN CAPITAL LETTER T WITH STROKE,LATIN SMALL LETTER T WITH STROKE"),
    (0x0168, "LATIN CAPITAL LETTER U WITH TILDE,LATIN SMALL LETTER U WITH TILDE"),
    (0x016A, "LATIN CAPITAL LETTER U WITH MACRON,LATIN SMALL LETTER U WITH MACRON"),
    (0x016C, "LATIN CAPITAL LETTER U WITH BREVE,LATIN SMALL LETTER U WITH BREVE"),
    (0x016E, "LATIN CAPITAL LETTER U WITH RING ABOVE,LATIN SMALL LETTER U WITH RING ABOVE"),
    (0x0170, "LATIN CAPITAL LETTER U WITH DOUBLE ACUTE,LATIN SMALL LETTER U WITH DOUBLE ACUTE"),
    (0x0172, "LATIN CAPITAL LETTER U WITH OGONEK,LATIN SMALL LETTER U WITH OGONEK"),
    (0x0174, "LATIN CAPITAL LETTER W WITH CIRCUMFLEX,LATIN SMALL LETTER W WITH CIRCUMFLEX"),
    (0x0176, "LATIN CAPITAL LETTER Y WITH CIRCUMFLEX,LATIN SMALL LETTER Y WITH CIRCUMFLEX"),
    (0x0178, "LATIN CAPITAL LETTER Y WITH DIAERESIS,LATIN CAPITAL LETTER Z WITH ACUTE"),
    (0x017A, "LATIN SMALL LETTER Z WITH ACUTE,LATIN CAPITAL LETTER Z WITH DOT ABOVE"),
    (0x017C, "LATIN SMALL LETTER Z WITH DOT ABOVE,LATIN CAPITAL LETTER Z WITH CARON"),
    (0x017E, "LATIN SMALL LETTER Z WITH CARON,LATIN SMALL LETTER LONG S"),
    (0x02C6, "MODIFIER LETTER CIRCUMFLEX ACCENT,CARON,MODIFIER LETTER VERTICAL LINE"),
    (0x02C9, "MODIFIER LETTER MACRON,MODIFIER LETTER ACUTE ACCENT,MODIFIER LETTER GRAVE ACCENT"),
    (0x02CC, "MODIFIER LETTER LOW VERTICAL LINE,MODIFIER LETTER LOW MACRON"),
    (0x02CE, "MODIFIER LETTER LOW GRAVE ACCENT,MODIFIER LETTER LOW ACUTE ACCENT"),
    (0x02D0, "MODIFIER LETTER TRIANGULAR COLON,MODIFIER LETTER HALF TRIANGULAR COLON"),
    (0x02D2, "MODIFIER LETTER CENTRED RIGHT HALF RING,MODIFIER LETTER CENTRED LEFT HALF RING"),
    (0x02D4, "MODIFIER LETTER UP TACK,MODIFIER LETTER DOWN TACK,MODIFIER LETTER PLUS SIGN"),
    (0x02D7, "MODIFIER LETTER MINUS SIGN,BREVE,DOT ABOVE,RING ABOVE,OGONEK,SMALL TILDE"),
    (0x02DD, "DOUBLE ACUTE ACCENT"),
    (0x0300, "COMBINING GRAVE ACCENT,COMBINING ACUTE ACCENT,COMBINING CIRCUMFLEX ACCENT"),
    (0x0303, "COMBINING TILDE,COMBINING MACRON,COMBINING OVERLINE,COMBINING BREVE"),
    (0x0307, "COMBINING DOT ABOVE,COMBINING DIAERESIS,COMBINING HOOK ABOVE"),
    (0x030A, "COMBINING RING ABOVE,COMBINING DOUBLE ACUTE ACCENT,COMBINING CARON"),
    (0x030D, "COMBINING VERTICAL LINE ABOVE,COMBINING DOUBLE VERTICAL LINE ABOVE"),
    (0x030F, "COMBINING DOUBLE GRAVE ACCENT"),
    (0x0370, "GREEK CAPITAL LETTER HETA,GREEK SMALL LETTER HETA"),
    (0x0372, "GREEK CAPITAL LETTER ARCHAIC SAMPI,GREEK SMALL LETTER ARCHAIC SAMPI"),
    (0x0374, "GREEK NUMERAL SIGN,GREEK LOWER NUMERAL SIGN"),
    (0x0376, "GREEK CAPITAL LETTER PAMPHYLIAN DIGAMMA,GREEK SMALL LETTER PAMPHYLIAN DIGAMMA"),
    (0x037A, "GREEK YPOGEGRAMMENI,GREEK SMALL REVERSED LUNATE SIGMA SYMBOL"),
    (0x037C, "GREEK SMALL DOTTED LUNATE SIGMA SYMBOL"),
    (0x037D, "GREEK SMALL REVERSED DOTTED LUNATE SIGMA SYMBOL,GREEK QUESTION MARK"),
    (0x037F, "GREEK CAPITAL LETTER YOT"),
    (0x0384, "GREEK TONOS,GREEK DIALYTIKA TONOS,GREEK CAPITAL LETTER ALPHA WITH TONOS"),
    (0x0387, "GREEK ANO TELEIA,GREEK CAPITAL LETTER EPSILON WITH TONOS"),
    (0x0389, "GREEK CAPITAL LETTER ETA WITH TONOS,GREEK CAPITAL LETTER IOTA WITH TONOS"),
    (0x038C, "GREEK CAPITAL LETTER OMICRON WITH TONOS"),
    (0x038E, "GREEK CAPITAL LETTER UPSILON WITH TONOS,GREEK CAPITAL LETTER OMEGA WITH TONOS"),
    (0x0390, "GREEK SMALL LETTER IOTA WITH DIALYTIKA AND TONOS,GREEK CAPITAL LETTER ALPHA"),
    (0x0392, "GREEK CAPITAL LETTER BETA,GREEK CAPITAL LETTER GAMMA,GREEK CAPITAL LETTER DELTA"),
    (0x0395, "GREEK CAPITAL LETTER EPSILON,GREEK CAPITAL LETTER ZETA,GREEK CAPITAL LETTER ETA"),
    (0x0398, "GREEK CAPITAL LETTER THETA,GREEK CAPITAL LETTER IOTA,GREEK CAPITAL LETTER KAPPA"),
    (0x039B, "GREEK CAPITAL LETTER LAMDA,GREEK CAPITAL LETTER MU,GREEK CAPITAL LETTER NU"),
    (0x039E, "GREEK CAPITAL LETTER XI,GREEK CAPITAL LETTER OMICRON,GREEK CAPITAL LETTER PI"),
    (0x03A1, "GREEK CAPITAL LETTER RHO"),
    (0x03A3, "GREEK CAPITAL LETTER SIGMA,GREEK CAPITAL LETTER TAU,GREEK CAPITAL LETTER UPSILON"),
    (0x03A6, "GREEK CAPITAL LETTER PHI,GREEK CAPITAL LETTER CHI,GREEK CAPITAL LETTER PSI"),
    (0x03A9, "GREEK CAPITAL LETTER OMEGA,GREEK CAPITAL LETTER IOTA WITH DIALYTIKA"),
    (0x03AB, "GREEK CAPITAL LETTER UPSILON WITH DIALYTIKA,GREEK SMALL LETTER ALPHA WITH TONOS"),
    (0x03AD, "GREEK SMALL LETTER EPSILON WITH TONOS,GREEK SMALL LETTER ETA WITH TONOS"),
    (0x03AF, "GREEK SMALL LETTER IOTA WITH TONOS"),
    (0x03B0, "GREEK SMALL LETTER UPSILON WITH DIALYTIKA AND TONOS,GREEK SMALL LETTER ALPHA"),
    (0x03B2, "GREEK SMALL LETTER BETA,GREEK SMALL LETTER GAMMA,GREEK SMALL LETTER DELTA"),
    (0x03B5, "GREEK SMALL LETTER EPSILON,GREEK SMALL LETTER ZETA,GREEK SMALL LETTER ETA"),
    (0x03B8, "GREEK SMALL LETTER THETA,GREEK SMALL LETTER IOTA,GREEK SMALL LETTER KAPPA"),
    (0x03BB, "GREEK SMALL LETTER LAMDA,GREEK SMALL LETTER MU,GREEK SMALL LETTER NU"),
    (0x03BE, "GREEK SMALL LETTER XI,GREEK SMALL LETTER OMICRON,GREEK SMALL LETTER PI"),
    (0x03C1, "GREEK SMALL LETTER RHO,GREEK SMALL LETTER FINAL SIGMA,GREEK SMALL LETTER SIGMA"),
    (0x03C4, "GREEK SMALL LETTER TAU,GREEK SMALL LETTER UPSILON,GREEK SMALL LETTER PHI"),
    (0x03C7, "GREEK SMALL LETTER CHI,GREEK SMALL LETTER PSI,GREEK SMALL LETTER OMEGA"),
    (0x03CA, "GREEK SMALL LETTER IOTA WITH DIALYTIKA,GREEK SMALL LETTER UPSILON WITH DIALYTIKA"),
    (0x03CC, "GREEK SMALL LETTER OMICRON WITH TONOS,GREEK SMALL LETTER UPSILON WITH TONOS"),
    (0x03CE, "GREEK SMALL LETTER OMEGA WITH TONOS,GREEK CAPITAL KAI SYMBOL,GREEK BETA SYMBOL"),
    (0x03D1, "GREEK THETA SYMBOL,GREEK UPSILON WITH HOOK SYMBOL"),
    (0x03D3, "GREEK UPSILON WITH ACUTE AND HOOK SYMBOL"),
    (0x03D4, "GREEK UPSILON WITH DIAERESIS AND HOOK SYMBOL,GREEK PHI SYMBOL,GREEK PI SYMBOL"),
    (0x03D7, "GREEK KAI SYMBOL,GREEK LETTER ARCHAIC KOPPA,GREEK SMALL LETTER ARCHAIC KOPPA"),
    (0x03DA, "GREEK LETTER STIGMA,GREEK SMALL LETTER STIGMA,GREEK LETTER DIGAMMA"),
    (0x03DD, "GREEK SMALL LETTER DIGAMMA,GREEK LETTER KOPPA,GREEK SMALL LETTER KOPPA"),
    (0x03E0, "GREEK LETTER SAMPI,GREEK SMALL LETTER SAMPI,COPTIC CAPITAL LETTER SHEI"),
    (0x03E3, "COPTIC SMALL LETTER SHEI,COPTIC CAPITAL LETTER FEI,COPTIC SMALL LETTER FEI"),
    (0x03E6, "COPTIC CAPITAL LETTER KHEI,COPTIC SMALL LETTER KHEI,COPTIC CAPITAL LETTER HORI"),
    (0x03E9, "COPTIC SMALL LETTER HORI,COPTIC CAPITAL LETTER GANGIA,COPTIC SMALL LETTER GANGIA"),
    (0x03EC, "COPTIC CAPITAL LETTER SHIMA,COPTIC SMALL LETTER SHIMA,COPTIC CAPITAL LETTER DEI"),
    (0x03EF, "COPTIC SMALL LETTER DEI,GREEK KAPPA SYMBOL,GREEK RHO SYMBOL"),
    (0x03F2, "GREEK LUNATE SIGMA SYMBOL,GREEK LETTER YOT,GREEK CAPITAL THETA SYMBOL"),
    (0x03F5, "GREEK LUNATE EPSILON SYMBOL,GREEK REVERSED LUNATE EPSILON SYMBOL"),
    (0x0400, "CYRILLIC CAPITAL LETTER IE WITH GRAVE,CYRILLIC CAPITAL LETTER IO"),
    (0x0402, "CYRILLIC CAPITAL LETTER DJE,CYRILLIC CAPITAL LETTER GJE"),
    (0x0404, "CYRILLIC CAPITAL LETTER UKRAINIAN IE,CYRILLIC CAPITAL LETTER DZE"),
    (0x0406, "CYRILLIC CAPITAL LETTER BYELORUSSIAN-UKRAINIAN I,CYRILLIC CAPITAL LETTER YI"),
    (0x0408, "CYRILLIC CAPITAL LETTER JE,CYRILLIC CAPITAL LETTER LJE"),
    (0x040A, "CYRILLIC CAPITAL LETTER NJE,CYRILLIC CAPITAL LETTER TSHE"),
    (0x040C, "CYRILLIC CAPITAL LETTER KJE,CYRILLIC CAPITAL LETTER I WITH GRAVE"),
    (0x040E, "CYRILLIC CAPITAL LETTER SHORT U,CYRILLIC CAPITAL LETTER DZHE"),
    (0x0410, "CYRILLIC CAPITAL LETTER A,CYRILLIC CAPITAL LETTER BE,CYRILLIC CAPITAL LETTER VE"),
    (0x0413, "CYRILLIC CAPITAL LETTER GHE,CYRILLIC CAPITAL LETTER DE"),
    (0x0415, "CYRILLIC CAPITAL LETTER IE,CYRILLIC CAPITAL LETTER ZHE"),
    (0x0417, "CYRILLIC CAPITAL LETTER ZE,CYRILLIC CAPITAL LETTER I"),
    (0x0419, "CYRILLIC CAPITAL LETTER SHORT I,CYRILLIC CAPITAL LETTER KA"),
    (0x041B, "CYRILLIC CAPITAL LETTER EL,CYRILLIC CAPITAL LETTER EM,CYRILLIC CAPITAL LETTER EN"),
    (0x041E, "CYRILLIC CAPITAL LETTER O,CYRILLIC CAPITAL LETTER PE,CYRILLIC CAPITAL LETTER ER"),
    (0x0421, "CYRILLIC CAPITAL LETTER ES,CYRILLIC CAPITAL LETTER TE,CYRILLIC CAPITAL LETTER U"),
    (0x0424, "CYRILLIC CAPITAL LETTER EF,CYRILLIC CAPITAL LETTER HA"),
    (0x0426, "CYRILLIC CAPITAL LETTER TSE,CYRILLIC CAPITAL LETTER CHE"),
    (0x0428, "CYRILLIC CAPITAL LETTER SHA,CYRILLIC CAPITAL LETTER SHCHA"),
    (0x042A, "CYRILLIC CAPITAL LETTER HARD SIGN,CYRILLIC CAPITAL LETTER YERU"),
    (0x042C, "CYRILLIC CAPITAL LETTER SOFT SIGN,CYRILLIC CAPITAL LETTER E"),
    (0x042E, "CYRILLIC CAPITAL LETTER YU,CYRILLIC CAPITAL LETTER YA,CYRILLIC SMALL LETTER A"),
    (0x0431, "CYRILLIC SMALL LETTER BE,CYRILLIC SMALL LETTER VE,CYRILLIC SMALL LETTER GHE"),
    (0x0434, "CYRILLIC SMALL LETTER DE,CYRILLIC SMALL LETTER IE,CYRILLIC SMALL LETTER ZHE"),
    (0x0437, "CYRILLIC SMALL LETTER ZE,CYRILLIC SMALL LETTER I,CYRILLIC SMALL LETTER SHORT I"),
    (0x043A, "CYRILLIC SMALL LETTER KA,CYRILLIC SMALL LETTER EL,CYRILLIC SMALL LETTER EM"),
    (0x043D, "CYRILLIC SMALL LETTER EN,CYRILLIC SMALL LETTER O,CYRILLIC SMALL LETTER PE"),
    (0x0440, "CYRILLIC SMALL LETTER ER,CYRILLIC SMALL LETTER ES,CYRILLIC SMALL LETTER TE"),
    (0x0443, "CYRILLIC SMALL LETTER U,CYRILLIC SMALL LETTER EF,CYRILLIC SMALL LETTER HA"),
    (0x0446, "CYRILLIC SMALL LETTER TSE,CYRILLIC SMALL LETTER CHE,CYRILLIC SMALL LETTER SHA"),
    (0x0449, "CYRILLIC SMALL LETTER SHCHA,CYRILLIC SMALL LETTER HARD SIGN"),
    (0x044B, "CYRILLIC SMALL LETTER YERU,CYRILLIC SMALL LETTER SOFT SIGN"),
    (0x044D, "CYRILLIC SMALL LETTER E,CYRILLIC SMALL LETTER YU,CYRILLIC SMALL LETTER YA"),
    (0x0450, "CYRILLIC SMALL LETTER IE WITH GRAVE,CYRILLIC SMALL LETTER IO"),
    (0x0452, "CYRILLIC SMALL LETTER DJE,CYRILLIC SMALL LETTER GJE"),
    (0x0454, "CYRILLIC SMALL LETTER UKRAINIAN IE,CYRILLIC SMALL LETTER DZE"),
    (0x0456, "CYRILLIC SMALL LETTER BYELORUSSIAN-UKRAINIAN I,CYRILLIC SMALL LETTER YI"),
    (0x0458, "CYRILLIC SMALL LETTER JE,CYRILLIC SMALL LETTER LJE,CYRILLIC SMALL LETTER NJE"),
    (0x045B, "CYRILLIC SMALL LETTER TSHE,CYRILLIC SMALL LETTER KJE"),
    (0x045D, "CYRILLIC SMALL LETTER I WITH GRAVE,CYRILLIC SMALL LETTER SHORT U"),
    (0x045F, "CYRILLIC SMALL LETTER DZHE"),
    (0x2000, "EN QUAD,EM QUAD,EN SPACE,EM SPACE,THREE-PER-EM SPACE,FOUR-PER-EM SPACE"),
    (0x2006, "SIX-PER-EM SPACE,FIGURE SPACE,PUNCTUATION SPACE,THIN SPACE,HAIR SPACE"),
    (0x200B, "ZERO WIDTH SPACE,ZERO WIDTH NON-JOINER,ZERO WIDTH JOINER,LEFT-TO-RIGHT MARK"),
    (0x200F, "RIGHT-TO-LEFT MARK,HYPHEN,NON-BREAKING HYPHEN,FIGURE DASH,EN DASH,EM DASH"),
    (0x2015, "HORIZONTAL BAR,DOUBLE VERTICAL LINE,DOUBLE LOW LINE,LEFT SINGLE QUOTATION MARK"),
    (0x2019, "RIGHT SINGLE QUOTATION MARK,SINGLE LOW-9 QUOTATION MARK"),
    (0x201B, "SINGLE HIGH-REVERSED-9 QUOTATION MARK,LEFT DOUBLE QUOTATION MARK"),
    (0x201D, "RIGHT DOUBLE QUOTATION MARK,DOUBLE LOW-9 QUOTATION MARK"),
    (0x201F, "DOUBLE HIGH-REVERSED-9 QUOTATION MARK,DAGGER,DOUBLE DAGGER,BULLET"),
    (0x2023, "TRIANGULAR BULLET,ONE DOT LEADER,TWO DOT LEADER,HORIZONTAL ELLIPSIS"),
    (0x2027, "HYPHENATION POINT,LINE SEPARATOR,PARAGRAPH SEPARATOR,LEFT-TO-RIGHT EMBEDDING"),
    (0x202B, "RIGHT-TO-LEFT EMBEDDING,POP DIRECTIONAL FORMATTING,LEFT-TO-RIGHT OVERRIDE"),
    (0x202E, "RIGHT-TO-LEFT OVERRIDE,NARROW NO-BREAK SPACE,PER MILLE SIGN"),
    (0x2031, "PER TEN THOUSAND SIGN,PRIME,DOUBLE PRIME,TRIPLE PRIME,REVERSED PRIME"),
    (0x2036, "REVERSED DOUBLE PRIME,REVERSED TRIPLE PRIME,CARET"),
    (0x2039, "SINGLE LEFT-POINTING ANGLE QUOTATION MARK"),
    (0x203A, "SINGLE RIGHT-POINTING ANGLE QUOTATION MARK,REFERENCE MARK"),
    (0x203C, "DOUBLE EXCLAMATION MARK,INTERROBANG,OVERLINE,UNDERTIE,CHARACTER TIE"),
    (0x2041, "CARET INSERTION POINT,ASTERISM,HYPHEN BULLET,FRACTION SLASH"),
    (0x2045, "LEFT SQUARE BRACKET WITH QUILL,RIGHT SQUARE BRACKET WITH QUILL"),
    (0x2047, "DOUBLE QUESTION MARK,QUESTION EXCLAMATION MARK,EXCLAMATION QUESTION MARK"),
    (0x204A, "TIRONIAN SIGN ET,REVERSED PILCROW SIGN,BLACK LEFTWARDS BULLET"),
    (0x204D, "BLACK RIGHTWARDS BULLET,LOW ASTERISK,REVERSED SEMICOLON,CLOSE UP"),
    (0x2051, "TWO ASTERISKS ALIGNED VERTICALLY,COMMERCIAL MINUS SIGN,SWUNG DASH"),
    (0x2054, "INVERTED UNDERTIE,FLOWER PUNCTUATION MARK,THREE DOT PUNCTUATION,QUADRUPLE PRIME"),
    (0x2058, "FOUR DOT PUNCTUATION,FIVE DOT PUNCTUATION,TWO DOT PUNCTUATION,FOUR DOT MARK"),
    (0x205C, "DOTTED CROSS,TRICOLON,VERTICAL FOUR DOTS,MEDIUM MATHEMATICAL SPACE,WORD JOINER"),
    (0x2061, "FUNCTION APPLICATION,INVISIBLE TIMES,INVISIBLE SEPARATOR,INVISIBLE PLUS"),
    (0x2066, "LEFT-TO-RIGHT ISOLATE,RIGHT-TO-LEFT ISOLATE,FIRST STRONG ISOLATE"),
    (0x2069, "POP DIRECTIONAL ISOLATE,INHIBIT SYMMETRIC SWAPPING,ACTIVATE SYMMETRIC SWAPPING"),
    (0x206C, "INHIBIT ARABIC FORM SHAPING,ACTIVATE ARABIC FORM SHAPING,NATIONAL DIGIT SHAPES"),
    (0x206F, "NOMINAL DIGIT SHAPES"),
    (0x20A0, "EURO-CURRENCY SIGN,COLON SIGN,CRUZEIRO SIGN,FRENCH FRANC SIGN,LIRA SIGN"),
    (0x20A5, "MILL SIGN,NAIRA SIGN,PESETA SIGN,RUPEE SIGN,WON SIGN,NEW SHEQEL SIGN,DONG SIGN"),
    (0x20AC, "EURO SIGN,KIP SIGN,TUGRIK SIGN,DRACHMA SIGN,GERMAN PENNY SIGN,PESO SIGN"),
    (0x20B2, "GUARANI SIGN,AUSTRAL SIGN,HRYVNIA SIGN,CEDI SIGN,LIVRE TOURNOIS SIGN"),
    (0x20B7, "SPESMILO SIGN,TENGE SIGN,INDIAN RUPEE SIGN,TURKISH LIRA SIGN,NORDIC MARK SIGN"),
    (0x20BC, "MANAT SIGN,RUBLE SIGN,LARI SIGN,BITCOIN SIGN,SOM SIGN"),
    (0x2190, "LEFTWARDS ARROW,UPWARDS ARROW,RIGHTWARDS ARROW,DOWNWARDS ARROW,LEFT RIGHT ARROW"),
    (0x2195, "UP DOWN ARROW,NORTH WEST ARROW,NORTH EAST ARROW,SOUTH EAST ARROW"),
    (0x2199, "SOUTH WEST ARROW,LEFTWARDS ARROW WITH STROKE,RIGHTWARDS ARROW WITH STROKE"),
    (0x219C, "LEFTWARDS WAVE ARROW,RIGHTWARDS WAVE ARROW,LEFTWARDS TWO HEADED ARROW"),
    (0x219F, "UPWARDS TWO HEADED ARROW"),
    (0x21D0, "LEFTWARDS DOUBLE ARROW,UPWARDS DOUBLE ARROW,RIGHTWARDS DOUBLE ARROW"),
    (0x21D3, "DOWNWARDS DOUBLE ARROW,LEFT RIGHT DOUBLE ARROW,UP DOWN DOUBLE ARROW"),
    (0x2200, "FOR ALL,COMPLEMENT,PARTIAL DIFFERENTIAL,THERE EXISTS,THERE DOES NOT EXIST"),
    (0x2205, "EMPTY SET,INCREMENT,NABLA,ELEMENT OF,NOT AN ELEMENT OF,SMALL ELEMENT OF"),
    (0x220B, "CONTAINS AS MEMBER,DOES NOT CONTAIN AS MEMBER,SMALL CONTAINS AS MEMBER"),
    (0x220E, "END OF PROOF,N-ARY PRODUCT,N-ARY COPRODUCT,N-ARY SUMMATION,MINUS SIGN"),
    (0x2213, "MINUS-OR-PLUS SIGN,DOT PLUS,DIVISION SLASH,SET MINUS,ASTERISK OPERATOR"),
    (0x2218, "RING OPERATOR,BULLET OPERATOR,SQUARE ROOT,CUBE ROOT,FOURTH ROOT,PROPORTIONAL TO"),
    (0x221E, "INFINITY,RIGHT ANGLE,ANGLE,MEASURED ANGLE,SPHERICAL ANGLE,DIVIDES"),
    (0x2224, "DOES NOT DIVIDE,PARALLEL TO,NOT PARALLEL TO,LOGICAL AND,LOGICAL OR,INTERSECTION"),
    (0x222A, "UNION,INTEGRAL,DOUBLE INTEGRAL,TRIPLE INTEGRAL,CONTOUR INTEGRAL,SURFACE INTEGRAL"),
    (0x2230, "VOLUME INTEGRAL,CLOCKWISE INTEGRAL,CLOCKWISE CONTOUR INTEGRAL"),
    (0x2233, "ANTICLOCKWISE CONTOUR INTEGRAL,THEREFORE,BECAUSE,RATIO,PROPORTION,DOT MINUS"),
    (0x2239, "EXCESS,GEOMETRIC PROPORTION,HOMOTHETIC,TILDE OPERATOR,REVERSED TILDE"),
    (0x223E, "INVERTED LAZY S,SINE WAVE,WREATH PRODUCT,NOT TILDE,MINUS TILDE"),
    (0x2243, "ASYMPTOTICALLY EQUAL TO,NOT ASYMPTOTICALLY EQUAL TO,APPROXIMATELY EQUAL TO"),
    (0x2246, "APPROXIMATELY BUT NOT ACTUALLY EQUAL TO"),
    (0x2247, "NEITHER APPROXIMATELY NOR ACTUALLY EQUAL TO,ALMOST EQUAL TO,NOT ALMOST EQUAL TO"),
    (0x224A, "ALMOST EQUAL OR EQUAL TO,TRIPLE TILDE,ALL EQUAL TO,EQUIVALENT TO"),
    (0x224E, "GEOMETRICALLY EQUIVALENT TO,DIFFERENCE BETWEEN,APPROACHES THE LIMIT"),
    (0x2251, "GEOMETRICALLY EQUAL TO,APPROXIMATELY EQUAL TO OR THE IMAGE OF"),
    (0x2253, "IMAGE OF OR APPROXIMATELY EQUAL TO,COLON EQUALS,EQUALS COLON,RING IN EQUAL TO"),
    (0x2257, "RING EQUAL TO,CORRESPONDS TO,ESTIMATES,EQUIANGULAR TO,STAR EQUALS,DELTA EQUAL TO"),
    (0x225D, "EQUAL TO BY DEFINITION,MEASURED BY,QUESTIONED EQUAL TO,NOT EQUAL TO,IDENTICAL TO"),
    (0x2262, "NOT IDENTICAL TO,STRICTLY EQUIVALENT TO,LESS-THAN OR EQUAL TO"),
    (0x2265, "GREATER-THAN OR EQUAL TO,LESS-THAN OVER EQUAL TO,GREATER-THAN OVER EQUAL TO"),
    (0x2268, "LESS-THAN BUT NOT EQUAL TO,GREATER-THAN BUT NOT EQUAL TO,MUCH LESS-THAN"),
    (0x226B, "MUCH GREATER-THAN,BETWEEN,NOT EQUIVALENT TO,NOT LESS-THAN,NOT GREATER-THAN"),
    (0x2580, "UPPER HALF BLOCK,LOWER ONE EIGHTH BLOCK,LOWER ONE QUARTER BLOCK"),
    (0x2583, "LOWER THREE EIGHTHS BLOCK,LOWER HALF BLOCK,LOWER FIVE EIGHTHS BLOCK"),
    (0x2586, "LOWER THREE QUARTERS BLOCK,LOWER SEVEN EIGHTHS BLOCK,FULL BLOCK"),
    (0x2589, "LEFT SEVEN EIGHTHS BLOCK,LEFT THREE QUARTERS BLOCK,LEFT FIVE EIGHTHS BLOCK"),
    (0x258C, "LEFT HALF BLOCK,LEFT THREE EIGHTHS BLOCK,LEFT ONE QUARTER BLOCK"),
    (0x258F, "LEFT ONE EIGHTH BLOCK,RIGHT HALF BLOCK,LIGHT SHADE,MEDIUM SHADE,DARK SHADE"),
    (0x2594, "UPPER ONE EIGHTH BLOCK,RIGHT ONE EIGHTH BLOCK,QUADRANT LOWER LEFT"),
    (0x2597, "QUADRANT LOWER RIGHT,QUADRANT UPPER LEFT"),
    (0x2599, "QUADRANT UPPER LEFT AND LOWER LEFT AND LOWER RIGHT"),
    (0x259A, "QUADRANT UPPER LEFT AND LOWER RIGHT"),
    (0x259B, "QUADRANT UPPER LEFT AND UPPER RIGHT AND LOWER LEFT"),
    (0x259C, "QUADRANT UPPER LEFT AND UPPER RIGHT AND LOWER RIGHT,QUADRANT UPPER RIGHT"),
    (0x259E, "QUADRANT UPPER RIGHT AND LOWER LEFT"),
    (0x259F, "QUADRANT UPPER RIGHT AND LOWER LEFT AND LOWER RIGHT,BLACK SQUARE,WHITE SQUARE"),
    (0x25A2, "WHITE SQUARE WITH ROUNDED CORNERS,WHITE SQUARE CONTAINING BLACK SMALL SQUARE"),
    (0x25A4, "SQUARE WITH HORIZONTAL FILL,SQUARE WITH VERTICAL FILL"),
    (0x25A6, "SQUARE WITH ORTHOGONAL CROSSHATCH FILL"),
    (0x25A7, "SQUARE WITH UPPER LEFT TO LOWER RIGHT FILL"),
    (0x25A8, "SQUARE WITH UPPER RIGHT TO LOWER LEFT FILL,SQUARE WITH DIAGONAL CROSSHATCH FILL"),
    (0x25AA, "BLACK SMALL SQUARE,WHITE SMALL SQUARE,BLACK RECTANGLE,WHITE RECTANGLE"),
    (0x25AE, "BLACK VERTICAL RECTANGLE,WHITE VERTICAL RECTANGLE,BLACK PARALLELOGRAM"),
    (0x25B1, "WHITE PARALLELOGRAM,BLACK UP-POINTING TRIANGLE,WHITE UP-POINTING TRIANGLE"),
    (0x25B4, "BLACK UP-POINTING SMALL TRIANGLE,WHITE UP-POINTING SMALL TRIANGLE"),
    (0x25B6, "BLACK RIGHT-POINTING TRIANGLE,WHITE RIGHT-POINTING TRIANGLE"),
    (0x25B8, "BLACK RIGHT-POINTING SMALL TRIANGLE,WHITE RIGHT-POINTING SMALL TRIANGLE"),
    (0x25BA, "BLACK RIGHT-POINTING POINTER,WHITE RIGHT-POINTING POINTER"),
    (0x25BC, "BLACK DOWN-POINTING TRIANGLE,WHITE DOWN-POINTING TRIANGLE"),
    (0x25BE, "BLACK DOWN-POINTING SMALL TRIANGLE,WHITE DOWN-POINTING SMALL TRIANGLE"),
    (0x25C0, "BLACK LEFT-POINTING TRIANGLE,WHITE LEFT-POINTING TRIANGLE"),
    (0x25C2, "BLACK LEFT-POINTING SMALL TRIANGLE,WHITE LEFT-POINTING SMALL TRIANGLE"),
    (0x25C4, "BLACK LEFT-POINTING POINTER,WHITE LEFT-POINTING POINTER,BLACK DIAMOND"),
    (0x25C7, "WHITE DIAMOND,WHITE DIAMOND CONTAINING BLACK SMALL DIAMOND,FISHEYE,LOZENGE"),
    (0x25CB, "WHITE CIRCLE,DOTTED CIRCLE,CIRCLE WITH VERTICAL FILL,BULLSEYE,BLACK CIRCLE"),
    (0x25D0, "CIRCLE WITH LEFT HALF BLACK,CIRCLE WITH RIGHT HALF BLACK"),
    (0x25D2, "CIRCLE WITH LOWER HALF BLACK,CIRCLE WITH UPPER HALF BLACK"),
    (0x25D4, "CIRCLE WITH UPPER RIGHT QUADRANT BLACK"),
    (0x25D5, "CIRCLE WITH ALL BUT UPPER LEFT QUADRANT BLACK,LEFT HALF BLACK CIRCLE"),
    (0x25D7, "RIGHT HALF BLACK CIRCLE,INVERSE BULLET,INVERSE WHITE CIRCLE"),
    (0x25DA, "UPPER HALF INVERSE WHITE CIRCLE,LOWER HALF INVERSE WHITE CIRCLE"),
    (0x25DC, "UPPER LEFT QUADRANT CIRCULAR ARC,UPPER RIGHT QUADRANT CIRCULAR ARC"),
    (0x25DE, "LOWER RIGHT QUADRANT CIRCULAR ARC,LOWER LEFT QUADRANT CIRCULAR ARC"),
    (0x25E0, "UPPER HALF CIRCLE,LOWER HALF CIRCLE,BLACK LOWER RIGHT TRIANGLE"),
    (0x25E3, "BLACK LOWER LEFT TRIANGLE,BLACK UPPER LEFT TRIANGLE,BLACK UPPER RIGHT TRIANGLE"),
    (0x25E6, "WHITE BULLET,SQUARE WITH LEFT HALF BLACK,SQUARE WITH RIGHT HALF BLACK"),
    (0x25E9, "SQUARE WITH UPPER LEFT DIAGONAL HALF BLACK"),
    (0x25EA, "SQUARE WITH LOWER RIGHT DIAGONAL HALF BLACK"),
    (0x25EB, "WHITE SQUARE WITH VERTICAL BISECTING LINE,WHITE UP-POINTING TRIANGLE WITH DOT"),
    (0x25ED, "UP-POINTING TRIANGLE WITH LEFT HALF BLACK"),
    (0x25EE, "UP-POINTING TRIANGLE WITH RIGHT HALF BLACK,LARGE CIRCLE"),
    (0x25F0, "WHITE SQUARE WITH UPPER LEFT QUADRANT,WHITE SQUARE WITH LOWER LEFT QUADRANT"),
    (0x25F2, "WHITE SQUARE WITH LOWER RIGHT QUADRANT,WHITE SQUARE WITH UPPER RIGHT QUADRANT"),
    (0x25F4, "WHITE CIRCLE WITH UPPER LEFT QUADRANT,WHITE CIRCLE WITH LOWER LEFT QUADRANT"),
    (0x25F6, "WHITE CIRCLE WITH LOWER RIGHT QUADRANT,WHITE CIRCLE WITH UPPER RIGHT QUADRANT"),
    (0x25F8, "UPPER LEFT TRIANGLE,UPPER RIGHT TRIANGLE,LOWER LEFT TRIANGLE,WHITE MEDIUM SQUARE"),
    (0x25FC, "BLACK MEDIUM SQUARE,WHITE MEDIUM SMALL SQUARE,BLACK MEDIUM SMALL SQUARE"),
    (0x2600, "BLACK SUN WITH RAYS,CLOUD,UMBRELLA,SNOWMAN,COMET,BLACK STAR,WHITE STAR,LIGHTNING"),
    (0x2608, "THUNDERSTORM,SUN,ASCENDING NODE,DESCENDING NODE,CONJUNCTION,OPPOSITION"),
    (0x260E, "BLACK TELEPHONE,WHITE TELEPHONE,BALLOT BOX,BALLOT BOX WITH CHECK"),
    (0x2612, "BALLOT BOX WITH X,SALTIRE,UMBRELLA WITH RAIN DROPS,HOT BEVERAGE"),
    (0x2616, "WHITE SHOGI PIECE,BLACK SHOGI PIECE,SHAMROCK"),
    (0x2619, "REVERSED ROTATED FLORAL HEART BULLET,BLACK LEFT POINTING INDEX"),
    (0x261B, "BLACK RIGHT POINTING INDEX,WHITE LEFT POINTING INDEX,WHITE UP POINTING INDEX"),
    (0x261E, "WHITE RIGHT POINTING INDEX,WHITE DOWN POINTING INDEX,SKULL AND CROSSBONES"),
    (0x2621, "CAUTION SIGN,RADIOACTIVE SIGN,BIOHAZARD SIGN,CADUCEUS,ANKH,ORTHODOX CROSS"),
    (0x2627, "CHI RHO,CROSS OF LORRAINE,CROSS OF JERUSALEM,STAR AND CRESCENT,FARSI SYMBOL"),
    (0x262C, "ADI SHAKTI,HAMMER AND SICKLE,PEACE SYMBOL,YIN YANG,TRIGRAM FOR HEAVEN"),
    (0x2631, "TRIGRAM FOR LAKE,TRIGRAM FOR FIRE,TRIGRAM FOR THUNDER,TRIGRAM FOR WIND"),
    (0x2635, "TRIGRAM FOR WATER,TRIGRAM FOR MOUNTAIN,TRIGRAM FOR EARTH,WHEEL OF DHARMA"),
    (0x2639, "WHITE FROWNING FACE,WHITE SMILING FACE,BLACK SMILING FACE,WHITE SUN WITH RAYS"),
    (0x263D, "FIRST QUARTER MOON,LAST QUARTER MOON,MERCURY,FEMALE SIGN,EARTH,MALE SIGN,JUPITER"),
    (0x2644, "SATURN,URANUS,NEPTUNE,PLUTO,ARIES,TAURUS,GEMINI,CANCER,LEO,VIRGO,LIBRA,SCORPIUS"),
    (0x2650, "SAGITTARIUS,CAPRICORN,AQUARIUS,PISCES,WHITE CHESS KING,WHITE CHESS QUEEN"),
    (0x2656, "WHITE CHESS ROOK,WHITE CHESS BISHOP,WHITE CHESS KNIGHT,WHITE CHESS PAWN"),
    (0x265A, "BLACK CHESS KING,BLACK CHESS QUEEN,BLACK CHESS ROOK,BLACK CHESS BISHOP"),
    (0x265E, "BLACK CHESS KNIGHT,BLACK CHESS PAWN,BLACK SPADE SUIT,WHITE HEART SUIT"),
    (0x2662, "WHITE DIAMOND SUIT,BLACK CLUB SUIT,WHITE SPADE SUIT,BLACK HEART SUIT"),
    (0x2666, "BLACK DIAMOND SUIT,WHITE CLUB SUIT,HOT SPRINGS,QUARTER NOTE,EIGHTH NOTE"),
    (0x266B, "BEAMED EIGHTH NOTES,BEAMED SIXTEENTH NOTES,MUSIC FLAT SIGN,MUSIC NATURAL SIGN"),
    (0x266F, "MUSIC SHARP SIGN"),
    (0x2700, "BLACK SAFETY SCISSORS,UPPER BLADE SCISSORS,BLACK SCISSORS,LOWER BLADE SCISSORS"),
    (0x2704, "WHITE SCISSORS,WHITE HEAVY CHECK MARK,TELEPHONE LOCATION SIGN,TAPE DRIVE"),
    (0x2708, "AIRPLANE,ENVELOPE,RAISED FIST,RAISED HAND,VICTORY HAND,WRITING HAND"),
    (0x270E, "LOWER RIGHT PENCIL,PENCIL,UPPER RIGHT PENCIL,WHITE NIB,BLACK NIB,CHECK MARK"),
    (0x2714, "HEAVY CHECK MARK,MULTIPLICATION X,HEAVY MULTIPLICATION X,BALLOT X,HEAVY BALLOT X"),
    (0x2719, "OUTLINED GREEK CROSS,HEAVY GREEK CROSS,OPEN CENTRE CROSS,HEAVY OPEN CENTRE CROSS"),
    (0x271D, "LATIN CROSS,SHADOWED WHITE LATIN CROSS,OUTLINED LATIN CROSS,MALTESE CROSS"),
    (0x2721, "STAR OF DAVID,FOUR TEARDROP-SPOKED ASTERISK,FOUR BALLOON-SPOKED ASTERISK"),
    (0x2724, "HEAVY FOUR BALLOON-SPOKED ASTERISK,FOUR CLUB-SPOKED ASTERISK"),
    (0x2726, "BLACK FOUR POINTED STAR,WHITE FOUR POINTED STAR,SPARKLES"),
    (0x2729, "STRESS OUTLINED WHITE STAR,CIRCLED WHITE STAR,OPEN CENTRE BLACK STAR"),
    (0x272C, "BLACK CENTRE WHITE STAR,OUTLINED BLACK STAR,HEAVY OUTLINED BLACK STAR"),
    (0x272F, "PINWHEEL STAR,SHADOWED WHITE STAR,HEAVY ASTERISK,OPEN CENTRE ASTERISK"),
    (0x2733, "EIGHT SPOKED ASTERISK,EIGHT POINTED BLACK STAR,EIGHT POINTED PINWHEEL STAR"),
    (0x2736, "SIX POINTED BLACK STAR,EIGHT POINTED RECTILINEAR BLACK STAR"),
    (0x2738, "HEAVY EIGHT POINTED RECTILINEAR BLACK STAR,TWELVE POINTED BLACK STAR"),
    (0x273A, "SIXTEEN POINTED ASTERISK,TEARDROP-SPOKED ASTERISK"),
    (0x273C, "OPEN CENTRE TEARDROP-SPOKED ASTERISK,HEAVY TEARDROP-SPOKED ASTERISK"),
    (0x273E, "SIX PETALLED BLACK AND WHITE FLORETTE,BLACK FLORETTE,WHITE FLORETTE"),
    (0x2741, "EIGHT PETALLED OUTLINED BLACK FLORETTE,CIRCLED OPEN CENTRE EIGHT POINTED STAR"),
    (0x2743, "HEAVY TEARDROP-SPOKED PINWHEEL ASTERISK,SNOWFLAKE,TIGHT TRIFOLIATE SNOWFLAKE"),
    (0x2746, "HEAVY CHEVRON SNOWFLAKE,SPARKLE,HEAVY SPARKLE,BALLOON-SPOKED ASTERISK"),
    (0x274A, "EIGHT TEARDROP-SPOKED PROPELLER ASTERISK"),
    (0x274B, "HEAVY EIGHT TEARDROP-SPOKED PROPELLER ASTERISK,CROSS MARK,SHADOWED WHITE CIRCLE"),
    (0x274E, "NEGATIVE SQUARED CROSS MARK,LOWER RIGHT DROP-SHADOWED WHITE SQUARE"),
    (0x2750, "UPPER RIGHT DROP-SHADOWED WHITE SQUARE,LOWER RIGHT SHADOWED WHITE SQUARE"),
    (0x2752, "UPPER RIGHT SHADOWED WHITE SQUARE,BLACK QUESTION MARK ORNAMENT"),
    (0x2754, "WHITE QUESTION MARK ORNAMENT,WHITE EXCLAMATION MARK ORNAMENT"),
    (0x2756, "BLACK DIAMOND MINUS WHITE X,HEAVY EXCLAMATION MARK SYMBOL,LIGHT VERTICAL BAR"),
    (0x2759, "MEDIUM VERTICAL BAR,HEAVY VERTICAL BAR"),
    (0x275B, "HEAVY SINGLE TURNED COMMA QUOTATION MARK ORNAMENT"),
    (0x275C, "HEAVY SINGLE COMMA QUOTATION MARK ORNAMENT"),
    (0x275D, "HEAVY DOUBLE TURNED COMMA QUOTATION MARK ORNAMENT"),
    (0x275E, "HEAVY DOUBLE COMMA QUOTATION MARK ORNAMENT"),
    (0x275F, "HEAVY LOW SINGLE COMMA QUOTATION MARK ORNAMENT"),
    (0x2760, "HEAVY LOW DOUBLE COMMA QUOTATION MARK ORNAMENT"),
    (0x2761, "CURVED STEM PARAGRAPH SIGN ORNAMENT,HEAVY EXCLAMATION MARK ORNAMENT"),
    (0x2763, "HEAVY HEART EXCLAMATION MARK ORNAMENT,HEAVY BLACK HEART"),
    (0x2765, "ROTATED HEAVY BLACK HEART BULLET,FLORAL HEART,ROTATED FLORAL HEART BULLET"),
    (0x2768, "MEDIUM LEFT PARENTHESIS ORNAMENT,MEDIUM RIGHT PARENTHESIS ORNAMENT"),
    (0x276A, "MEDIUM FLATTENED LEFT PARENTHESIS ORNAMENT"),
    (0x276B, "MEDIUM FLATTENED RIGHT PARENTHESIS ORNAMENT"),
    (0x276C, "MEDIUM LEFT-POINTING ANGLE BRACKET ORNAMENT"),
    (0x276D, "MEDIUM RIGHT-POINTING ANGLE BRACKET ORNAMENT"),
    (0x276E, "HEAVY LEFT-POINTING ANGLE QUOTATION MARK ORNAMENT"),
    (0x276F, "HEAVY RIGHT-POINTING ANGLE QUOTATION MARK ORNAMENT"),
    (0x1F600, "GRINNING FACE,GRINNING FACE WITH SMILING EYES,FACE WITH TEARS OF JOY"),
    (0x1F603, "SMILING FACE WITH OPEN MOUTH,SMILING FACE WITH OPEN MOUTH AND SMILING EYES"),
    (0x1F605, "SMILING FACE WITH OPEN MOUTH AND COLD SWEAT"),
    (0x1F606, "SMILING FACE WITH OPEN MOUTH AND TIGHTLY-CLOSED EYES,SMILING FACE WITH HALO"),
    (0x1F608, "SMILING FACE WITH HORNS,WINKING FACE,SMILING FACE WITH SMILING EYES"),
    (0x1F60B, "FACE SAVOURING DELICIOUS FOOD,RELIEVED FACE,SMILING FACE WITH HEART-SHAPED EYES"),
    (0x1F60E, "SMILING FACE WITH SUNGLASSES,SMIRKING FACE,NEUTRAL FACE,EXPRESSIONLESS FACE"),
    (0x1F612, "UNAMUSED FACE,FACE WITH COLD SWEAT,PENSIVE FACE,CONFUSED FACE,CONFOUNDED FACE"),
    (0x1F617, "KISSING FACE,FACE THROWING A KISS,KISSING FACE WITH SMILING EYES"),
    (0x1F61A, "KISSING FACE WITH CLOSED EYES,FACE WITH STUCK-OUT TONGUE"),
    (0x1F61C, "FACE WITH STUCK-OUT TONGUE AND WINKING EYE"),
    (0x1F61D, "FACE WITH STUCK-OUT TONGUE AND TIGHTLY-CLOSED EYES,DISAPPOINTED FACE"),
    (0x1F61F, "WORRIED FACE,ANGRY FACE,POUTING FACE,CRYING FACE,PERSEVERING FACE"),
    (0x1F624, "FACE WITH LOOK OF TRIUMPH,DISAPPOINTED BUT RELIEVED FACE"),
    (0x1F626, "FROWNING FACE WITH OPEN MOUTH,ANGUISHED FACE,FEARFUL FACE,WEARY FACE,SLEEPY FACE"),
    (0x1F62B, "TIRED FACE,GRIMACING FACE,LOUDLY CRYING FACE,FACE WITH OPEN MOUTH,HUSHED FACE"),
    (0x1F630, "FACE WITH OPEN MOUTH AND COLD SWEAT,FACE SCREAMING IN FEAR,ASTONISHED FACE"),
    (0x1F633, "FLUSHED FACE,SLEEPING FACE,DIZZY FACE,FACE WITHOUT MOUTH,FACE WITH MEDICAL MASK"),
    (0x1F638, "GRINNING CAT FACE WITH SMILING EYES,CAT FACE WITH TEARS OF JOY"),
    (0x1F63A, "SMILING CAT FACE WITH OPEN MOUTH,SMILING CAT FACE WITH HEART-SHAPED EYES"),
    (0x1F63C, "CAT FACE WITH WRY SMILE,KISSING CAT FACE WITH CLOSED EYES,POUTING CAT FACE"),
    (0x1F63F, "CRYING CAT FACE,WEARY CAT FACE,SLIGHTLY FROWNING FACE,SLIGHTLY SMILING FACE"),
    (0x1F643, "UPSIDE-DOWN FACE,FACE WITH ROLLING EYES,FACE WITH NO GOOD GESTURE"),
    (0x1F646, "FACE WITH OK GESTURE,PERSON BOWING DEEPLY,SEE-NO-EVIL MONKEY,HEAR-NO-EVIL MONKEY"),
    (0x1F64A, "SPEAK-NO-EVIL MONKEY,HAPPY PERSON RAISING ONE HAND"),
    (0x1F64C, "PERSON RAISING BOTH HANDS IN CELEBRATION,PERSON FROWNING"),
    (0x1F64E, "PERSON WITH POUTING FACE,PERSON WITH FOLDED HANDS")]

/-- The character of a name in upper case that is written in a row. -/
def inRows? (name : String) : Option Char :=
  rows.findSome? fun (first, names) =>
    ((names.toList.splitOn ',').idxOf? name.toList).map fun i => Char.ofNat (first + i)

/-- The Latin letter of a name in upper case. -/
def letter? (name : List Char) : Option Char :=
  let capital := "LATIN CAPITAL LETTER ".toList
  let small := "LATIN SMALL LETTER ".toList
  if capital.isPrefixOf name then
    match name.drop capital.length with
    | [c] => if c.isUpper then some c else none
    | _ => none
  else if small.isPrefixOf name then
    match name.drop small.length with
    | [c] => if c.isUpper then some c.toLower else none
    | _ => none
  else none

/-- The ranges of the ideographs that are named by their numbers. -/
def ideographs : List (Nat × Nat) :=
  [(0x3400, 0x4DBF), (0x4E00, 0x9FFF), (0x20000, 0x2A6DF), (0x2A700, 0x2B739), (0x2B740, 0x2B81D),
    (0x2B820, 0x2CEA1), (0x2CEB0, 0x2EBE0), (0x30000, 0x3134A), (0x31350, 0x323AF)]

/-- The ideograph of a number in upper case hexadecimal digits. -/
def ideograph? (digits : List Char) : Option Char := do
  if digits.length < 4 ∨ 5 < digits.length ∨ digits.any Char.isLower then none
  else
    let number ← hexNumber? digits
    if ideographs.any fun (first, last) => first ≤ number && number ≤ last then
      some (Char.ofNat number)
    else none

/-- How the letters of syllables are named: initial consonants, vowels, and final consonants with a
missing one in front. -/
def syllableParts : List (List String) :=
  [["G", "GG", "N", "D", "DD", "R", "M", "B", "BB", "S", "SS", "", "J", "JJ", "C", "K", "T", "P",
      "H"],
    ["A", "AE", "YA", "YAE", "EO", "E", "YEO", "YE", "O", "WA", "WAE", "OE", "YO", "U", "WEO", "WE",
      "WI", "YU", "EU", "YI", "I"],
    ["", "G", "GG", "GS", "N", "NJ", "NH", "D", "L", "LG", "LM", "LB", "LS", "LT", "LP", "LH", "M",
      "B", "BS", "S", "SS", "NG", "J", "C", "K", "T", "P", "H"]]

/-- Splits off the longest of some texts with which a text begins, and tells its place. -/
def longest? (parts : List String) (text : List Char) : Option (Nat × List Char) :=
  let fitting := parts.zipIdx.filter fun (part, _) => part.toList.isPrefixOf text
  let best? := fitting.foldl (fun (best? : Option (String × Nat)) (part, i) =>
    match best? with
    | some (other, _) => if other.length < part.length then some (part, i) else best?
    | none => some (part, i)) none
  best?.map fun (part, i) => (i, text.drop part.length)

/-- The syllable that the names of its letters spell. -/
def syllable? (spelling : List Char) : Option Char := do
  let (places, rest) ← syllableParts.foldlM (fun (places, rest) parts => do
    let (i, rest) ← longest? parts rest
    return (places ++ [i], rest)) (([], spelling) : List Nat × List Char)
  match places, rest with
  | [initial, vowel, final], [] =>
    some (Char.ofNat (Hangul.firstSyllable + (initial * 21 + vowel) * 28 + final))
  | _, _ => none

/-- The character of a name. Ideographs and syllables are named in upper case only. -/
def ofName? (name : List Char) : Option Char :=
  let ideograph := "CJK UNIFIED IDEOGRAPH-".toList
  let syllable := "HANGUL SYLLABLE ".toList
  if syllable.isPrefixOf name then syllable? (name.drop syllable.length)
  else if ideograph.isPrefixOf name then ideograph? (name.drop ideograph.length)
  else
    let name := name.map Char.toUpper
    (letter? name).or (inRows? (String.ofList name))

end SchemaVisibility.Text.CharName
