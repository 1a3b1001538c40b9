import Storefront.Net.Name.Mark
import Storefront.Text.Unprinted

/-! The characters of host names. Some are not allowed, some are passed over, and of some only
a folded form is used, such as the small form of a letter. Forms are written out here where
they lie within ASCII and where a mark becomes a letter, or a letter a mark; of the others it
is only known that there is one. Ranges are inclusive and ascending. -/
namespace Storefront.Net.Name

def ignoredRanges : Text.Ranges := [
  (0xAD, 0xAD), (0x34F, 0x34F), (0x115F, 0x1160), (0x17B4, 0x17B5), (0x180B, 0x180F),
  (0x200B, 0x200B), (0x2060, 0x2064), (0x206A, 0x206F), (0x3164, 0x3164), (0xFE00, 0xFE0F),
  (0xFEFF, 0xFEFF), (0xFFA0, 0xFFA0), (0x1BCA0, 0x1BCA3), (0x1D173, 0x1D17A), (0xE0100, 0xE01EF)]

/-- Characters with a glyph that are not allowed, or whose folded form is not. -/
def refusedRanges : Text.Ranges := [
  (0xA8, 0xA8), (0xAF, 0xAF), (0xB4, 0xB4), (0xB8, 0xB8), (0x2D8, 0x2DD), (0x37A, 0x37A),
  (0x384, 0x385), (0x1FBD, 0x1FBD), (0x1FBF, 0x1FC1), (0x1FCD, 0x1FCF), (0x1FDD, 0x1FDF),
  (0x1FED, 0x1FEE), (0x1FFD, 0x1FFE), (0x2017, 0x2017), (0x2024, 0x2026), (0x203E, 0x203E),
  (0x2047, 0x2049), (0x2100, 0x2101), (0x2105, 0x2106), (0x2488, 0x249B), (0x2A74, 0x2A74),
  (0x2FF0, 0x2FFF), (0x309B, 0x309C), (0x31EF, 0x31EF), (0x33C2, 0x33C2), (0x33C7, 0x33C7),
  (0x33D8, 0x33D8), (0xFC5E, 0xFC63), (0xFDFA, 0xFDFB), (0xFE12, 0xFE13), (0xFE16, 0xFE16),
  (0xFE19, 0xFE19), (0xFE30, 0xFE30), (0xFE47, 0xFE4C), (0xFE52, 0xFE52), (0xFE55, 0xFE56),
  (0xFE5F, 0xFE5F), (0xFE64, 0xFE65), (0xFE68, 0xFE68), (0xFE6A, 0xFE6B), (0xFE70, 0xFE70),
  (0xFE72, 0xFE72), (0xFE74, 0xFE74), (0xFE76, 0xFE76), (0xFE78, 0xFE78), (0xFE7A, 0xFE7A),
  (0xFE7C, 0xFE7C), (0xFE7E, 0xFE7E), (0xFF03, 0xFF03), (0xFF05, 0xFF05), (0xFF0F, 0xFF0F),
  (0xFF1A, 0xFF1A), (0xFF1C, 0xFF1C), (0xFF1E, 0xFF20), (0xFF3B, 0xFF3E), (0xFF5C, 0xFF5C),
  (0xFFE3, 0xFFE3), (0xFFFC, 0xFFFD), (0x1F100, 0x1F100)]

/-- Characters with a folded form that is not written out: first, last and the steps between
them. -/
def foldedRuns : List (Nat × Nat × Nat) := [
  (0xB5, 0xB5, 1), (0xBC, 0xBE, 1), (0xC0, 0xD6, 1), (0xD8, 0xDE, 1), (0x100, 0x130, 2),
  (0x134, 0x136, 2), (0x139, 0x13F, 2), (0x140, 0x141, 1), (0x143, 0x149, 2), (0x14A, 0x178, 2),
  (0x179, 0x17D, 2), (0x181, 0x182, 1), (0x184, 0x186, 2), (0x187, 0x189, 2), (0x18A, 0x18B, 1),
  (0x18E, 0x191, 1), (0x193, 0x194, 1), (0x196, 0x198, 1), (0x19C, 0x19D, 1), (0x19F, 0x1A0, 1),
  (0x1A2, 0x1A6, 2), (0x1A7, 0x1A9, 2), (0x1AC, 0x1AE, 2), (0x1AF, 0x1B1, 2), (0x1B2, 0x1B3, 1),
  (0x1B5, 0x1B7, 2), (0x1B8, 0x1B8, 1), (0x1BC, 0x1BC, 1), (0x1C4, 0x1C6, 1), (0x1CD, 0x1DB, 2),
  (0x1DE, 0x1EE, 2), (0x1F4, 0x1F6, 2), (0x1F7, 0x1F8, 1), (0x1FA, 0x232, 2), (0x23A, 0x23B, 1),
  (0x23D, 0x23E, 1), (0x241, 0x243, 2), (0x244, 0x246, 1), (0x248, 0x24E, 2), (0x2B1, 0x2B1, 1),
  (0x2B4, 0x2B6, 1), (0x2E0, 0x2E0, 1), (0x2E4, 0x2E4, 1), (0x340, 0x341, 1), (0x343, 0x344, 1),
  (0x370, 0x376, 2), (0x37F, 0x37F, 1), (0x386, 0x38A, 1), (0x38C, 0x38E, 2), (0x38F, 0x391, 2),
  (0x392, 0x3A1, 1), (0x3A3, 0x3AB, 1), (0x3CF, 0x3D6, 1), (0x3D8, 0x3F0, 2), (0x3F1, 0x3F2, 1),
  (0x3F4, 0x3F5, 1), (0x3F7, 0x3F9, 2), (0x3FA, 0x3FA, 1), (0x3FD, 0x42F, 1), (0x460, 0x480, 2),
  (0x48A, 0x4C0, 2), (0x4C1, 0x4CD, 2), (0x4D0, 0x52E, 2), (0x531, 0x556, 1), (0x587, 0x587, 1),
  (0x675, 0x678, 1), (0x958, 0x95F, 1), (0x9DC, 0x9DD, 1), (0x9DF, 0x9DF, 1), (0xA33, 0xA33, 1),
  (0xA36, 0xA36, 1), (0xA59, 0xA5B, 1), (0xA5E, 0xA5E, 1), (0xB5C, 0xB5D, 1), (0xEDC, 0xEDD, 1),
  (0xF0C, 0xF0C, 1), (0xF43, 0xF43, 1), (0xF4D, 0xF4D, 1), (0xF52, 0xF52, 1), (0xF57, 0xF57, 1),
  (0xF5C, 0xF5C, 1), (0xF69, 0xF69, 1), (0xF73, 0xF75, 2), (0xF76, 0xF79, 1), (0xF81, 0xF81, 1),
  (0xF93, 0xF93, 1), (0xF9D, 0xF9D, 1), (0xFA2, 0xFA2, 1), (0xFA7, 0xFA7, 1), (0xFAC, 0xFAC, 1),
  (0xFB9, 0xFB9, 1), (0x10A0, 0x10C5, 1), (0x10C7, 0x10C7, 1), (0x10CD, 0x10CD, 1),
  (0x10FC, 0x10FC, 1), (0x13F8, 0x13FD, 1), (0x1C80, 0x1C89, 1), (0x1C90, 0x1CBA, 1),
  (0x1CBD, 0x1CBF, 1), (0x1D2D, 0x1D2D, 1), (0x1D32, 0x1D32, 1), (0x1D3D, 0x1D3D, 1),
  (0x1D44, 0x1D46, 1), (0x1D4A, 0x1D4C, 1), (0x1D51, 0x1D53, 2), (0x1D54, 0x1D55, 1),
  (0x1D59, 0x1D5A, 1), (0x1D5C, 0x1D61, 1), (0x1D66, 0x1D6A, 1), (0x1D78, 0x1D78, 1),
  (0x1D9B, 0x1D9D, 2), (0x1D9E, 0x1D9F, 1), (0x1DA1, 0x1DBA, 1), (0x1DBC, 0x1DBF, 1),
  (0x1E00, 0x1E94, 2), (0x1E9A, 0x1E9B, 1), (0x1E9E, 0x1EFE, 2), (0x1F08, 0x1F0F, 1),
  (0x1F18, 0x1F1D, 1), (0x1F28, 0x1F2F, 1), (0x1F38, 0x1F3F, 1), (0x1F48, 0x1F4D, 1),
  (0x1F59, 0x1F5F, 2), (0x1F68, 0x1F6F, 1), (0x1F71, 0x1F7D, 2), (0x1F80, 0x1FAF, 1),
  (0x1FB2, 0x1FB4, 1), (0x1FB7, 0x1FBC, 1), (0x1FBE, 0x1FBE, 1), (0x1FC2, 0x1FC4, 1),
  (0x1FC7, 0x1FCC, 1), (0x1FD3, 0x1FD3, 1), (0x1FD8, 0x1FDB, 1), (0x1FE3, 0x1FE3, 1),
  (0x1FE8, 0x1FEC, 1), (0x1FF2, 0x1FF4, 1), (0x1FF7, 0x1FFC, 1), (0x2011, 0x2011, 1),
  (0x2033, 0x2034, 1), (0x2036, 0x2037, 1), (0x2057, 0x2057, 1), (0x207B, 0x207B, 1),
  (0x208B, 0x208B, 1), (0x2094, 0x2094, 1), (0x2103, 0x2103, 1), (0x2107, 0x2109, 2),
  (0x210F, 0x210F, 1), (0x2126, 0x2126, 1), (0x212B, 0x212B, 1), (0x2132, 0x2132, 1),
  (0x2135, 0x2138, 1), (0x213C, 0x2140, 1), (0x2150, 0x215F, 1), (0x2183, 0x2183, 1),
  (0x2189, 0x2189, 1), (0x222C, 0x222D, 1), (0x222F, 0x2230, 1), (0x2329, 0x232A, 1),
  (0x2A0C, 0x2A0C, 1), (0x2ADC, 0x2ADC, 1), (0x2C00, 0x2C2F, 1), (0x2C60, 0x2C62, 2),
  (0x2C63, 0x2C64, 1), (0x2C67, 0x2C6D, 2), (0x2C6E, 0x2C70, 1), (0x2C72, 0x2C72, 1),
  (0x2C75, 0x2C75, 1), (0x2C7E, 0x2C80, 1), (0x2C82, 0x2CE2, 2), (0x2CEB, 0x2CED, 2),
  (0x2CF2, 0x2CF2, 1), (0x2D6F, 0x2D6F, 1), (0x2E9F, 0x2E9F, 1), (0x2EF3, 0x2EF3, 1),
  (0x2F00, 0x2FD5, 1), (0x3036, 0x3038, 2), (0x3039, 0x303A, 1), (0x309F, 0x309F, 1),
  (0x30FF, 0x30FF, 1), (0x3131, 0x3163, 1), (0x3165, 0x318E, 1), (0x3192, 0x319F, 1),
  (0x3200, 0x321E, 1), (0x3220, 0x3247, 1), (0x3260, 0x327E, 1), (0x3280, 0x32B0, 1),
  (0x32C0, 0x32CB, 1), (0x32D0, 0x3370, 1), (0x337B, 0x337F, 1), (0x3382, 0x3382, 1),
  (0x338C, 0x338D, 1), (0x3395, 0x3395, 1), (0x339B, 0x339B, 1), (0x33A7, 0x33A8, 1),
  (0x33AE, 0x33AF, 1), (0x33B2, 0x33B2, 1), (0x33B6, 0x33B6, 1), (0x33BC, 0x33BC, 1),
  (0x33C0, 0x33C1, 1), (0x33C6, 0x33C6, 1), (0x33DE, 0x33FE, 1), (0xA640, 0xA66C, 2),
  (0xA680, 0xA69C, 2), (0xA69D, 0xA69D, 1), (0xA722, 0xA72E, 2), (0xA732, 0xA770, 2),
  (0xA779, 0xA77D, 2), (0xA77E, 0xA786, 2), (0xA78B, 0xA78D, 2), (0xA790, 0xA792, 2),
  (0xA796, 0xA7AA, 2), (0xA7AB, 0xA7AE, 1), (0xA7B0, 0xA7B4, 1), (0xA7B6, 0xA7C4, 2),
  (0xA7C5, 0xA7C7, 1), (0xA7C9, 0xA7CB, 2), (0xA7CC, 0xA7DC, 2), (0xA7F5, 0xA7F5, 1),
  (0xA7F8, 0xA7F9, 1), (0xAB5C, 0xAB5F, 1), (0xAB69, 0xAB69, 1), (0xAB70, 0xABBF, 1),
  (0xF900, 0xFA0D, 1), (0xFA10, 0xFA12, 2), (0xFA15, 0xFA1E, 1), (0xFA20, 0xFA22, 2),
  (0xFA25, 0xFA26, 1), (0xFA2A, 0xFA6D, 1), (0xFA70, 0xFAD9, 1), (0xFB13, 0xFB17, 1),
  (0xFB1D, 0xFB1F, 2), (0xFB20, 0xFB28, 1), (0xFB2A, 0xFB36, 1), (0xFB38, 0xFB3C, 1),
  (0xFB3E, 0xFB40, 2), (0xFB41, 0xFB43, 2), (0xFB44, 0xFB46, 2), (0xFB47, 0xFBB1, 1),
  (0xFBD3, 0xFC5D, 1), (0xFC64, 0xFD3D, 1), (0xFD50, 0xFD8F, 1), (0xFD92, 0xFDC7, 1),
  (0xFDF0, 0xFDF9, 1), (0xFDFC, 0xFDFC, 1), (0xFE11, 0xFE11, 1), (0xFE17, 0xFE18, 1),
  (0xFE31, 0xFE32, 1), (0xFE39, 0xFE44, 1), (0xFE51, 0xFE51, 1), (0xFE58, 0xFE58, 1),
  (0xFE5D, 0xFE5E, 1), (0xFE71, 0xFE71, 1), (0xFE77, 0xFE7F, 2), (0xFE80, 0xFEFC, 1),
  (0xFF5F, 0xFF60, 1), (0xFF62, 0xFF9D, 1), (0xFFA1, 0xFFBE, 1), (0xFFC2, 0xFFC7, 1),
  (0xFFCA, 0xFFCF, 1), (0xFFD2, 0xFFD7, 1), (0xFFDA, 0xFFDC, 1), (0xFFE0, 0xFFE2, 1),
  (0xFFE4, 0xFFE6, 1), (0xFFE8, 0xFFEE, 1), (0x10400, 0x10427, 1), (0x104B0, 0x104D3, 1),
  (0x10570, 0x1057A, 1), (0x1057C, 0x1058A, 1), (0x1058C, 0x10592, 1), (0x10594, 0x10595, 1),
  (0x10781, 0x10785, 1), (0x10787, 0x107A4, 1), (0x107A6, 0x107B0, 1), (0x107B2, 0x107BA, 1),
  (0x10C80, 0x10CB2, 1), (0x10D50, 0x10D65, 1), (0x118A0, 0x118BF, 1), (0x16E40, 0x16E5F, 1),
  (0x16EA0, 0x16EB8, 1), (0x1D15E, 0x1D164, 1), (0x1D1BB, 0x1D1C0, 1), (0x1D6A4, 0x1D6A5, 1),
  (0x1D6A8, 0x1D7CB, 1), (0x1E030, 0x1E06D, 1), (0x1E900, 0x1E921, 1), (0x1EE00, 0x1EE03, 1),
  (0x1EE05, 0x1EE1F, 1), (0x1EE21, 0x1EE22, 1), (0x1EE24, 0x1EE24, 1), (0x1EE27, 0x1EE29, 2),
  (0x1EE2A, 0x1EE32, 1), (0x1EE34, 0x1EE37, 1), (0x1EE39, 0x1EE3B, 2), (0x1EE42, 0x1EE42, 1),
  (0x1EE47, 0x1EE4D, 2), (0x1EE4E, 0x1EE4F, 1), (0x1EE51, 0x1EE52, 1), (0x1EE54, 0x1EE54, 1),
  (0x1EE57, 0x1EE61, 2), (0x1EE62, 0x1EE64, 2), (0x1EE67, 0x1EE6A, 1), (0x1EE6C, 0x1EE72, 1),
  (0x1EE74, 0x1EE77, 1), (0x1EE79, 0x1EE7C, 1), (0x1EE7E, 0x1EE80, 2), (0x1EE81, 0x1EE89, 1),
  (0x1EE8B, 0x1EE9B, 1), (0x1EEA1, 0x1EEA3, 1), (0x1EEA5, 0x1EEA9, 1), (0x1EEAB, 0x1EEBB, 1),
  (0x1F12A, 0x1F12A, 1), (0x1F200, 0x1F202, 1), (0x1F210, 0x1F23B, 1), (0x1F240, 0x1F248, 1),
  (0x1F250, 0x1F251, 1), (0x2F800, 0x2FA1D, 1)]

/-- Folded forms of one character, for each run of characters from its first. -/
def letterRuns : List (Nat × String) := [
  (0xAA, "a"), (0xB2, "23"), (0xB9, "1o"), (0x17F, "s"), (0x2B0, "h"), (0x2B2, "jr"),
  (0x2B7, "wy"), (0x2E1, "lsx"), (0x345, "\u03b9"), (0x37E, ";"), (0x1D2C, "a"), (0x1D2E, "b"),
  (0x1D30, "de"),
  (0x1D33, "ghijklmn"), (0x1D3C, "o"), (0x1D3E, "prtuwa"), (0x1D47, "bde"), (0x1D4D, "g"),
  (0x1D4F, "km"), (0x1D52, "o"), (0x1D56, "ptu"), (0x1D5B, "v"), (0x1D62, "iruv"), (0x1D9C, "c"),
  (0x1DA0, "f"), (0x1DBB, "z"), (0x1FEF, "`"), (0x2070, "0i"), (0x2074, "456789+"),
  (0x207C, "=()n0123456789+"), (0x208C, "=()"), (0x2090, "aeox"), (0x2095, "hklmnpst"),
  (0x2102, "c"), (0x210A, "ghhhh"), (0x2110, "iill"), (0x2115, "n"), (0x2119, "pqrrr"),
  (0x2124, "z"), (0x2128, "z"), (0x212A, "k"), (0x212C, "bc"), (0x212F, "eef"), (0x2133, "mo"),
  (0x2139, "i"), (0x2145, "ddeij"), (0x2160, "i"), (0x2164, "v"), (0x2169, "x"), (0x216C, "lcdmi"),
  (0x2174, "v"), (0x2179, "x"), (0x217C, "lcdm"), (0x2460, "123456789"),
  (0x24B6, "abcdefghijklmnopqrstuvwxyzabcdefghijklmnopqrstuvwxyz0"), (0x2C7C, "jv"), (0x3002, "."),
  (0xA7F1, "scfq"), (0xFB29, "+"), (0xFE10, ","), (0xFE14, ";!"), (0xFE33, "__()\x7b\x7d"),
  (0xFE4D, "___,"), (0xFE54, ";"), (0xFE57, "!"), (0xFE59, "()\x7b\x7d"), (0xFE60, "&*+-"),
  (0xFE66, "="), (0xFE69, "$"), (0xFF01, "!\""), (0xFF04, "$"), (0xFF06, "&'()*+,-."),
  (0xFF10, "0123456789"), (0xFF1B, ";"), (0xFF1D, "="), (0xFF21, "abcdefghijklmnopqrstuvwxyz"),
  (0xFF3F, "_`abcdefghijklmnopqrstuvwxyz\x7b"), (0xFF5D, "\x7d~"), (0xFF61, "."),
  (0xFF9E, "\u3099\u309a"), (0x107A5, "q"),
  (0x1CCD6, "abcdefghijklmnopqrstuvwxyz0123456789"),
  (0x1D400, "abcdefghijklmnopqrstuvwxyzabcdefghijklmnopqrstuvwxyzabcdefgh"),
  (0x1D43C, "ijklmnopqrstuvwxyzabcdefg"),
  (0x1D456, "ijklmnopqrstuvwxyzabcdefghijklmnopqrstuvwxyzabcdefghijklmnop"),
  (0x1D492, "qrstuvwxyza"), (0x1D49E, "cd"), (0x1D4A2, "g"), (0x1D4A5, "jk"), (0x1D4A9, "nopq"),
  (0x1D4AE, "stuvwxyzabcd"), (0x1D4BB, "f"), (0x1D4BD, "hijklmn"),
  (0x1D4C5, "pqrstuvwxyzabcdefghijklmnopqrstuvwxyzabcdefghijklmnopqrstuvw"), (0x1D501, "xyzab"),
  (0x1D507, "defg"), (0x1D50D, "jklmnopq"), (0x1D516, "stuvwxy"),
  (0x1D51E, "abcdefghijklmnopqrstuvwxyzab"), (0x1D53B, "defg"), (0x1D540, "ijklm"), (0x1D546, "o"),
  (0x1D54A, "stuvwxy"), (0x1D552, "abcdefghijklmnopqrstuvwxyzabcdefghijklmnopqrstuvwxyzabcdefgh"),
  (0x1D58E, "ijklmnopqrstuvwxyzabcdefghijklmnopqrstuvwxyzabcdefghijklmnop"),
  (0x1D5CA, "qrstuvwxyzabcdefghijklmnopqrstuvwxyzabcdefghijklmnopqrstuvwx"),
  (0x1D606, "yzabcdefghijklmnopqrstuvwxyzabcdefghijklmnopqrstuvwxyzabcdef"),
  (0x1D642, "ghijklmnopqrstuvwxyzabcdefghijklmnopqrstuvwxyzabcdefghijklmn"),
  (0x1D67E, "opqrstuvwxyzabcdefghijklmnopqrstuvwxyz"),
  (0x1D7CE, "01234567890123456789012345678901234567890123456789"), (0x1F12B, "cr"),
  (0x1F130, "abcdefghijklmnopqrstuvwxyz"), (0x1FBF0, "0123456789")]

/-- Folded forms of several characters, for each run of characters from its first. -/
def wordRuns : List (Nat × List String) := [
  (0x132, ["ij", "ij"]),
  (0x1C7, ["lj", "lj", "lj", "nj", "nj", "nj"]),
  (0x1F1, ["dz", "dz", "dz"]),
  (0xE33, ["\u0e4d\u0e32"]),
  (0xEB3, ["\u0ecd\u0eb2"]),
  (0x203C, ["!!"]),
  (0x20A8, ["rs"]),
  (0x2116, ["no"]),
  (0x2120, ["sm", "tel", "tm"]),
  (0x213B, ["fax"]),
  (0x2161, ["ii", "iii", "iv"]),
  (0x2165, ["vi", "vii", "viii", "ix"]),
  (0x216A, ["xi", "xii"]),
  (0x2171, ["ii", "iii", "iv"]),
  (0x2175, ["vi", "vii", "viii", "ix"]),
  (0x217A, ["xi", "xii"]),
  (0x2469, ["10", "11", "12", "13", "14", "15", "16", "17", "18", "19", "20", "(1)", "(2)", "(3)",
    "(4)", "(5)", "(6)", "(7)", "(8)", "(9)", "(10)", "(11)", "(12)", "(13)", "(14)", "(15)",
    "(16)", "(17)", "(18)", "(19)", "(20)"]),
  (0x249C, ["(a)", "(b)", "(c)", "(d)", "(e)", "(f)", "(g)", "(h)", "(i)", "(j)", "(k)", "(l)",
    "(m)", "(n)", "(o)", "(p)", "(q)", "(r)", "(s)", "(t)", "(u)", "(v)", "(w)", "(x)", "(y)",
    "(z)"]),
  (0x2A75, ["==", "==="]),
  (0x3250, ["pte", "21", "22", "23", "24", "25", "26", "27", "28", "29", "30", "31", "32", "33",
    "34", "35"]),
  (0x32B1, ["36", "37", "38", "39", "40", "41", "42", "43", "44", "45", "46", "47", "48", "49",
    "50"]),
  (0x32CC, ["hg", "erg", "ev", "ltd"]),
  (0x3371, ["hpa", "da", "au", "bar", "ov", "pc", "dm", "dm2", "dm3", "iu"]),
  (0x3380, ["pa", "na"]),
  (0x3383, ["ma", "ka", "kb", "mb", "gb", "cal", "kcal", "pf", "nf"]),
  (0x338E, ["mg", "kg", "hz", "khz", "mhz", "ghz", "thz"]),
  (0x3396, ["ml", "dl", "kl", "fm", "nm"]),
  (0x339C, ["mm", "cm", "km", "mm2", "cm2", "m2", "km2", "mm3", "cm3", "m3", "km3"]),
  (0x33A9, ["pa", "kpa", "mpa", "gpa", "rad"]),
  (0x33B0, ["ps", "ns"]),
  (0x33B3, ["ms", "pv", "nv"]),
  (0x33B7, ["mv", "kv", "mv", "pw", "nw"]),
  (0x33BD, ["mw", "kw", "mw"]),
  (0x33C3, ["bq", "cc", "cd"]),
  (0x33C8, ["db", "gy", "ha", "hp", "in", "kk", "km", "kt", "lm", "ln", "log", "lx", "mb", "mil",
    "mol", "ph"]),
  (0x33D9, ["ppm", "pr", "sr", "sv", "wb"]),
  (0x33FF, ["gal"]),
  (0xFB00, ["ff", "fi", "fl", "ffi", "ffl", "st", "st"]),
  (0x1F101, ["0,", "1,", "2,", "3,", "4,", "5,", "6,", "7,", "8,", "9,"]),
  (0x1F110, ["(a)", "(b)", "(c)", "(d)", "(e)", "(f)", "(g)", "(h)", "(i)", "(j)", "(k)", "(l)",
    "(m)", "(n)", "(o)", "(p)", "(q)", "(r)", "(s)", "(t)", "(u)", "(v)", "(w)", "(x)", "(y)",
    "(z)"]),
  (0x1F12D, ["cd", "wz"]),
  (0x1F14A, ["hv", "mv", "sd", "ss", "ppv", "wc"]),
  (0x1F16A, ["mc", "md", "mr"]),
  (0x1F190, ["dj"])]

inductive Form where
  | refused
  | ignored
  | folded (form : List Char)
  | kept
  deriving DecidableEq, Repr

def letterForm? (c : Char) : Option (List Char) :=
  letterRuns.findSome? fun (first, forms) =>
    if c.toNat < first then none else (forms.toList[c.toNat - first]?).map fun d => [d]

def wordForm? (c : Char) : Option (List Char) :=
  wordRuns.findSome? fun (first, forms) =>
    if c.toNat < first then none else (forms[c.toNat - first]?).map String.toList

def isFolded (c : Char) : Bool :=
  foldedRuns.any fun (first, last, step) =>
    first ≤ c.toNat && c.toNat ≤ last && (c.toNat - first) % step = 0

def isJoiner (c : Char) : Bool := c = '\u200c' || c = '\u200d'

/-- A character without a glyph is not allowed, unless it is a mark or a joiner. -/
def isRefused (c : Char) : Bool :=
  refusedRanges.contains c || (Text.isUnprinted c && !isMark c && !isJoiner c)

def formBeyondAscii (c : Char) : Form :=
  if ignoredRanges.contains c then .ignored
  else if isRefused c then .refused
  else match letterForm? c <|> wordForm? c with
    | some form => .folded form
    | none => if isFolded c then .folded [c] else .kept

def formOf (c : Char) : Form :=
  if 0x80 ≤ c.toNat then formBeyondAscii c
  else if c.isUpper then .folded [c.toLower]
  else .kept

end Storefront.Net.Name
