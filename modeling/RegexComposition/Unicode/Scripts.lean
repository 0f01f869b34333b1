/-!
# Scripts

The scripts of Unicode 17.0 by their codes of four letters.  Every code point belongs to one script;
a few are used with other scripts, or with several ones, and are listed with all of them.

Main definitions:

- `scriptOf`: the script of a code point.
- `scriptsOf`: the scripts that a code point is used with.
- `scriptNames`: the names of the scripts.
-/

namespace RegexComposition.Unicode

/-! ## Tables -/

/-- The code points of the basic plane with their scripts in ascending order.  Those that are common
to all scripts or inherit theirs are among them. -/
def basicRuns : List (Nat × Nat × String) := [
  (0x0000, 0x0040, "Zyyy"), (0x0041, 0x005A, "Latn"), (0x005B, 0x0060, "Zyyy"),
  (0x0061, 0x007A, "Latn"), (0x007B, 0x00A9, "Zyyy"), (0x00AA, 0x00AA, "Latn"),
  (0x00AB, 0x00B9, "Zyyy"), (0x00BA, 0x00BA, "Latn"), (0x00BB, 0x00BF, "Zyyy"),
  (0x00C0, 0x00D6, "Latn"), (0x00D7, 0x00D7, "Zyyy"), (0x00D8, 0x00F6, "Latn"),
  (0x00F7, 0x00F7, "Zyyy"), (0x00F8, 0x02B8, "Latn"), (0x02B9, 0x02DF, "Zyyy"),
  (0x02E0, 0x02E4, "Latn"), (0x02E5, 0x02E9, "Zyyy"), (0x02EA, 0x02EB, "Bopo"),
  (0x02EC, 0x02FF, "Zyyy"), (0x0300, 0x036F, "Zinh"), (0x0370, 0x0373, "Grek"),
  (0x0374, 0x0374, "Zyyy"), (0x0375, 0x0377, "Grek"), (0x037A, 0x037D, "Grek"),
  (0x037E, 0x037E, "Zyyy"), (0x037F, 0x037F, "Grek"), (0x0384, 0x0384, "Grek"),
  (0x0385, 0x0385, "Zyyy"), (0x0386, 0x0386, "Grek"), (0x0387, 0x0387, "Zyyy"),
  (0x0388, 0x038A, "Grek"), (0x038C, 0x038C, "Grek"), (0x038E, 0x03A1, "Grek"),
  (0x03A3, 0x03E1, "Grek"), (0x03E2, 0x03EF, "Copt"), (0x03F0, 0x03FF, "Grek"),
  (0x0400, 0x0484, "Cyrl"), (0x0485, 0x0486, "Zinh"), (0x0487, 0x052F, "Cyrl"),
  (0x0531, 0x0556, "Armn"), (0x0559, 0x058A, "Armn"), (0x058D, 0x058F, "Armn"),
  (0x0591, 0x05C7, "Hebr"), (0x05D0, 0x05EA, "Hebr"), (0x05EF, 0x05F4, "Hebr"),
  (0x0600, 0x0604, "Arab"), (0x0605, 0x0605, "Zyyy"), (0x0606, 0x060B, "Arab"),
  (0x060C, 0x060C, "Zyyy"), (0x060D, 0x061A, "Arab"), (0x061B, 0x061B, "Zyyy"),
  (0x061C, 0x061E, "Arab"), (0x061F, 0x061F, "Zyyy"), (0x0620, 0x063F, "Arab"),
  (0x0640, 0x0640, "Zyyy"), (0x0641, 0x064A, "Arab"), (0x064B, 0x0655, "Zinh"),
  (0x0656, 0x066F, "Arab"), (0x0670, 0x0670, "Zinh"), (0x0671, 0x06DC, "Arab"),
  (0x06DD, 0x06DD, "Zyyy"), (0x06DE, 0x06FF, "Arab"), (0x0700, 0x070D, "Syrc"),
  (0x070F, 0x074A, "Syrc"), (0x074D, 0x074F, "Syrc"), (0x0750, 0x077F, "Arab"),
  (0x0780, 0x07B1, "Thaa"), (0x07C0, 0x07FA, "Nkoo"), (0x07FD, 0x07FF, "Nkoo"),
  (0x0800, 0x082D, "Samr"), (0x0830, 0x083E, "Samr"), (0x0840, 0x085B, "Mand"),
  (0x085E, 0x085E, "Mand"), (0x0860, 0x086A, "Syrc"), (0x0870, 0x0891, "Arab"),
  (0x0897, 0x08E1, "Arab"), (0x08E2, 0x08E2, "Zyyy"), (0x08E3, 0x08FF, "Arab"),
  (0x0900, 0x0950, "Deva"), (0x0951, 0x0954, "Zinh"), (0x0955, 0x0963, "Deva"),
  (0x0964, 0x0965, "Zyyy"), (0x0966, 0x097F, "Deva"), (0x0980, 0x0983, "Beng"),
  (0x0985, 0x098C, "Beng"), (0x098F, 0x0990, "Beng"), (0x0993, 0x09A8, "Beng"),
  (0x09AA, 0x09B0, "Beng"), (0x09B2, 0x09B2, "Beng"), (0x09B6, 0x09B9, "Beng"),
  (0x09BC, 0x09C4, "Beng"), (0x09C7, 0x09C8, "Beng"), (0x09CB, 0x09CE, "Beng"),
  (0x09D7, 0x09D7, "Beng"), (0x09DC, 0x09DD, "Beng"), (0x09DF, 0x09E3, "Beng"),
  (0x09E6, 0x09FE, "Beng"), (0x0A01, 0x0A03, "Guru"), (0x0A05, 0x0A0A, "Guru"),
  (0x0A0F, 0x0A10, "Guru"), (0x0A13, 0x0A28, "Guru"), (0x0A2A, 0x0A30, "Guru"),
  (0x0A32, 0x0A33, "Guru"), (0x0A35, 0x0A36, "Guru"), (0x0A38, 0x0A39, "Guru"),
  (0x0A3C, 0x0A3C, "Guru"), (0x0A3E, 0x0A42, "Guru"), (0x0A47, 0x0A48, "Guru"),
  (0x0A4B, 0x0A4D, "Guru"), (0x0A51, 0x0A51, "Guru"), (0x0A59, 0x0A5C, "Guru"),
  (0x0A5E, 0x0A5E, "Guru"), (0x0A66, 0x0A76, "Guru"), (0x0A81, 0x0A83, "Gujr"),
  (0x0A85, 0x0A8D, "Gujr"), (0x0A8F, 0x0A91, "Gujr"), (0x0A93, 0x0AA8, "Gujr"),
  (0x0AAA, 0x0AB0, "Gujr"), (0x0AB2, 0x0AB3, "Gujr"), (0x0AB5, 0x0AB9, "Gujr"),
  (0x0ABC, 0x0AC5, "Gujr"), (0x0AC7, 0x0AC9, "Gujr"), (0x0ACB, 0x0ACD, "Gujr"),
  (0x0AD0, 0x0AD0, "Gujr"), (0x0AE0, 0x0AE3, "Gujr"), (0x0AE6, 0x0AF1, "Gujr"),
  (0x0AF9, 0x0AFF, "Gujr"), (0x0B01, 0x0B03, "Orya"), (0x0B05, 0x0B0C, "Orya"),
  (0x0B0F, 0x0B10, "Orya"), (0x0B13, 0x0B28, "Orya"), (0x0B2A, 0x0B30, "Orya"),
  (0x0B32, 0x0B33, "Orya"), (0x0B35, 0x0B39, "Orya"), (0x0B3C, 0x0B44, "Orya"),
  (0x0B47, 0x0B48, "Orya"), (0x0B4B, 0x0B4D, "Orya"), (0x0B55, 0x0B57, "Orya"),
  (0x0B5C, 0x0B5D, "Orya"), (0x0B5F, 0x0B63, "Orya"), (0x0B66, 0x0B77, "Orya"),
  (0x0B82, 0x0B83, "Taml"), (0x0B85, 0x0B8A, "Taml"), (0x0B8E, 0x0B90, "Taml"),
  (0x0B92, 0x0B95, "Taml"), (0x0B99, 0x0B9A, "Taml"), (0x0B9C, 0x0B9C, "Taml"),
  (0x0B9E, 0x0B9F, "Taml"), (0x0BA3, 0x0BA4, "Taml"), (0x0BA8, 0x0BAA, "Taml"),
  (0x0BAE, 0x0BB9, "Taml"), (0x0BBE, 0x0BC2, "Taml"), (0x0BC6, 0x0BC8, "Taml"),
  (0x0BCA, 0x0BCD, "Taml"), (0x0BD0, 0x0BD0, "Taml"), (0x0BD7, 0x0BD7, "Taml"),
  (0x0BE6, 0x0BFA, "Taml"), (0x0C00, 0x0C0C, "Telu"), (0x0C0E, 0x0C10, "Telu"),
  (0x0C12, 0x0C28, "Telu"), (0x0C2A, 0x0C39, "Telu"), (0x0C3C, 0x0C44, "Telu"),
  (0x0C46, 0x0C48, "Telu"), (0x0C4A, 0x0C4D, "Telu"), (0x0C55, 0x0C56, "Telu"),
  (0x0C58, 0x0C5A, "Telu"), (0x0C5C, 0x0C5D, "Telu"), (0x0C60, 0x0C63, "Telu"),
  (0x0C66, 0x0C6F, "Telu"), (0x0C77, 0x0C7F, "Telu"), (0x0C80, 0x0C8C, "Knda"),
  (0x0C8E, 0x0C90, "Knda"), (0x0C92, 0x0CA8, "Knda"), (0x0CAA, 0x0CB3, "Knda"),
  (0x0CB5, 0x0CB9, "Knda"), (0x0CBC, 0x0CC4, "Knda"), (0x0CC6, 0x0CC8, "Knda"),
  (0x0CCA, 0x0CCD, "Knda"), (0x0CD5, 0x0CD6, "Knda"), (0x0CDC, 0x0CDE, "Knda"),
  (0x0CE0, 0x0CE3, "Knda"), (0x0CE6, 0x0CEF, "Knda"), (0x0CF1, 0x0CF3, "Knda"),
  (0x0D00, 0x0D0C, "Mlym"), (0x0D0E, 0x0D10, "Mlym"), (0x0D12, 0x0D44, "Mlym"),
  (0x0D46, 0x0D48, "Mlym"), (0x0D4A, 0x0D4F, "Mlym"), (0x0D54, 0x0D63, "Mlym"),
  (0x0D66, 0x0D7F, "Mlym"), (0x0D81, 0x0D83, "Sinh"), (0x0D85, 0x0D96, "Sinh"),
  (0x0D9A, 0x0DB1, "Sinh"), (0x0DB3, 0x0DBB, "Sinh"), (0x0DBD, 0x0DBD, "Sinh"),
  (0x0DC0, 0x0DC6, "Sinh"), (0x0DCA, 0x0DCA, "Sinh"), (0x0DCF, 0x0DD4, "Sinh"),
  (0x0DD6, 0x0DD6, "Sinh"), (0x0DD8, 0x0DDF, "Sinh"), (0x0DE6, 0x0DEF, "Sinh"),
  (0x0DF2, 0x0DF4, "Sinh"), (0x0E01, 0x0E3A, "Thai"), (0x0E3F, 0x0E3F, "Zyyy"),
  (0x0E40, 0x0E5B, "Thai"), (0x0E81, 0x0E82, "Laoo"), (0x0E84, 0x0E84, "Laoo"),
  (0x0E86, 0x0E8A, "Laoo"), (0x0E8C, 0x0EA3, "Laoo"), (0x0EA5, 0x0EA5, "Laoo"),
  (0x0EA7, 0x0EBD, "Laoo"), (0x0EC0, 0x0EC4, "Laoo"), (0x0EC6, 0x0EC6, "Laoo"),
  (0x0EC8, 0x0ECE, "Laoo"), (0x0ED0, 0x0ED9, "Laoo"), (0x0EDC, 0x0EDF, "Laoo"),
  (0x0F00, 0x0F47, "Tibt"), (0x0F49, 0x0F6C, "Tibt"), (0x0F71, 0x0F97, "Tibt"),
  (0x0F99, 0x0FBC, "Tibt"), (0x0FBE, 0x0FCC, "Tibt"), (0x0FCE, 0x0FD4, "Tibt"),
  (0x0FD5, 0x0FD8, "Zyyy"), (0x0FD9, 0x0FDA, "Tibt"), (0x1000, 0x109F, "Mymr"),
  (0x10A0, 0x10C5, "Geor"), (0x10C7, 0x10C7, "Geor"), (0x10CD, 0x10CD, "Geor"),
  (0x10D0, 0x10FA, "Geor"), (0x10FB, 0x10FB, "Zyyy"), (0x10FC, 0x10FF, "Geor"),
  (0x1100, 0x11FF, "Hang"), (0x1200, 0x1248, "Ethi"), (0x124A, 0x124D, "Ethi"),
  (0x1250, 0x1256, "Ethi"), (0x1258, 0x1258, "Ethi"), (0x125A, 0x125D, "Ethi"),
  (0x1260, 0x1288, "Ethi"), (0x128A, 0x128D, "Ethi"), (0x1290, 0x12B0, "Ethi"),
  (0x12B2, 0x12B5, "Ethi"), (0x12B8, 0x12BE, "Ethi"), (0x12C0, 0x12C0, "Ethi"),
  (0x12C2, 0x12C5, "Ethi"), (0x12C8, 0x12D6, "Ethi"), (0x12D8, 0x1310, "Ethi"),
  (0x1312, 0x1315, "Ethi"), (0x1318, 0x135A, "Ethi"), (0x135D, 0x137C, "Ethi"),
  (0x1380, 0x1399, "Ethi"), (0x13A0, 0x13F5, "Cher"), (0x13F8, 0x13FD, "Cher"),
  (0x1400, 0x167F, "Cans"), (0x1680, 0x169C, "Ogam"), (0x16A0, 0x16EA, "Runr"),
  (0x16EB, 0x16ED, "Zyyy"), (0x16EE, 0x16F8, "Runr"), (0x1700, 0x1715, "Tglg"),
  (0x171F, 0x171F, "Tglg"), (0x1720, 0x1734, "Hano"), (0x1735, 0x1736, "Zyyy"),
  (0x1740, 0x1753, "Buhd"), (0x1760, 0x176C, "Tagb"), (0x176E, 0x1770, "Tagb"),
  (0x1772, 0x1773, "Tagb"), (0x1780, 0x17DD, "Khmr"), (0x17E0, 0x17E9, "Khmr"),
  (0x17F0, 0x17F9, "Khmr"), (0x1800, 0x1801, "Mong"), (0x1802, 0x1803, "Zyyy"),
  (0x1804, 0x1804, "Mong"), (0x1805, 0x1805, "Zyyy"), (0x1806, 0x1819, "Mong"),
  (0x1820, 0x1878, "Mong"), (0x1880, 0x18AA, "Mong"), (0x18B0, 0x18F5, "Cans"),
  (0x1900, 0x191E, "Limb"), (0x1920, 0x192B, "Limb"), (0x1930, 0x193B, "Limb"),
  (0x1940, 0x1940, "Limb"), (0x1944, 0x194F, "Limb"), (0x1950, 0x196D, "Tale"),
  (0x1970, 0x1974, "Tale"), (0x1980, 0x19AB, "Talu"), (0x19B0, 0x19C9, "Talu"),
  (0x19D0, 0x19DA, "Talu"), (0x19DE, 0x19DF, "Talu"), (0x19E0, 0x19FF, "Khmr"),
  (0x1A00, 0x1A1B, "Bugi"), (0x1A1E, 0x1A1F, "Bugi"), (0x1A20, 0x1A5E, "Lana"),
  (0x1A60, 0x1A7C, "Lana"), (0x1A7F, 0x1A89, "Lana"), (0x1A90, 0x1A99, "Lana"),
  (0x1AA0, 0x1AAD, "Lana"), (0x1AB0, 0x1ADD, "Zinh"), (0x1AE0, 0x1AEB, "Zinh"),
  (0x1B00, 0x1B4C, "Bali"), (0x1B4E, 0x1B7F, "Bali"), (0x1B80, 0x1BBF, "Sund"),
  (0x1BC0, 0x1BF3, "Batk"), (0x1BFC, 0x1BFF, "Batk"), (0x1C00, 0x1C37, "Lepc"),
  (0x1C3B, 0x1C49, "Lepc"), (0x1C4D, 0x1C4F, "Lepc"), (0x1C50, 0x1C7F, "Olck"),
  (0x1C80, 0x1C8A, "Cyrl"), (0x1C90, 0x1CBA, "Geor"), (0x1CBD, 0x1CBF, "Geor"),
  (0x1CC0, 0x1CC7, "Sund"), (0x1CD0, 0x1CD2, "Zinh"), (0x1CD3, 0x1CD3, "Zyyy"),
  (0x1CD4, 0x1CE0, "Zinh"), (0x1CE1, 0x1CE1, "Zyyy"), (0x1CE2, 0x1CE8, "Zinh"),
  (0x1CE9, 0x1CEC, "Zyyy"), (0x1CED, 0x1CED, "Zinh"), (0x1CEE, 0x1CF3, "Zyyy"),
  (0x1CF4, 0x1CF4, "Zinh"), (0x1CF5, 0x1CF7, "Zyyy"), (0x1CF8, 0x1CF9, "Zinh"),
  (0x1CFA, 0x1CFA, "Zyyy"), (0x1D00, 0x1D25, "Latn"), (0x1D26, 0x1D2A, "Grek"),
  (0x1D2B, 0x1D2B, "Cyrl"), (0x1D2C, 0x1D5C, "Latn"), (0x1D5D, 0x1D61, "Grek"),
  (0x1D62, 0x1D65, "Latn"), (0x1D66, 0x1D6A, "Grek"), (0x1D6B, 0x1D77, "Latn"),
  (0x1D78, 0x1D78, "Cyrl"), (0x1D79, 0x1DBE, "Latn"), (0x1DBF, 0x1DBF, "Grek"),
  (0x1DC0, 0x1DFF, "Zinh"), (0x1E00, 0x1EFF, "Latn"), (0x1F00, 0x1F15, "Grek"),
  (0x1F18, 0x1F1D, "Grek"), (0x1F20, 0x1F45, "Grek"), (0x1F48, 0x1F4D, "Grek"),
  (0x1F50, 0x1F57, "Grek"), (0x1F59, 0x1F59, "Grek"), (0x1F5B, 0x1F5B, "Grek"),
  (0x1F5D, 0x1F5D, "Grek"), (0x1F5F, 0x1F7D, "Grek"), (0x1F80, 0x1FB4, "Grek"),
  (0x1FB6, 0x1FC4, "Grek"), (0x1FC6, 0x1FD3, "Grek"), (0x1FD6, 0x1FDB, "Grek"),
  (0x1FDD, 0x1FEF, "Grek"), (0x1FF2, 0x1FF4, "Grek"), (0x1FF6, 0x1FFE, "Grek"),
  (0x2000, 0x200B, "Zyyy"), (0x200C, 0x200D, "Zinh"), (0x200E, 0x2064, "Zyyy"),
  (0x2066, 0x2070, "Zyyy"), (0x2071, 0x2071, "Latn"), (0x2074, 0x207E, "Zyyy"),
  (0x207F, 0x207F, "Latn"), (0x2080, 0x208E, "Zyyy"), (0x2090, 0x209C, "Latn"),
  (0x20A0, 0x20C1, "Zyyy"), (0x20D0, 0x20F0, "Zinh"), (0x2100, 0x2125, "Zyyy"),
  (0x2126, 0x2126, "Grek"), (0x2127, 0x2129, "Zyyy"), (0x212A, 0x212B, "Latn"),
  (0x212C, 0x2131, "Zyyy"), (0x2132, 0x2132, "Latn"), (0x2133, 0x214D, "Zyyy"),
  (0x214E, 0x214E, "Latn"), (0x214F, 0x215F, "Zyyy"), (0x2160, 0x2188, "Latn"),
  (0x2189, 0x218B, "Zyyy"), (0x2190, 0x2429, "Zyyy"), (0x2440, 0x244A, "Zyyy"),
  (0x2460, 0x27FF, "Zyyy"), (0x2800, 0x28FF, "Brai"), (0x2900, 0x2B73, "Zyyy"),
  (0x2B76, 0x2BFF, "Zyyy"), (0x2C00, 0x2C5F, "Glag"), (0x2C60, 0x2C7F, "Latn"),
  (0x2C80, 0x2CF3, "Copt"), (0x2CF9, 0x2CFF, "Copt"), (0x2D00, 0x2D25, "Geor"),
  (0x2D27, 0x2D27, "Geor"), (0x2D2D, 0x2D2D, "Geor"), (0x2D30, 0x2D67, "Tfng"),
  (0x2D6F, 0x2D70, "Tfng"), (0x2D7F, 0x2D7F, "Tfng"), (0x2D80, 0x2D96, "Ethi"),
  (0x2DA0, 0x2DA6, "Ethi"), (0x2DA8, 0x2DAE, "Ethi"), (0x2DB0, 0x2DB6, "Ethi"),
  (0x2DB8, 0x2DBE, "Ethi"), (0x2DC0, 0x2DC6, "Ethi"), (0x2DC8, 0x2DCE, "Ethi"),
  (0x2DD0, 0x2DD6, "Ethi"), (0x2DD8, 0x2DDE, "Ethi"), (0x2DE0, 0x2DFF, "Cyrl"),
  (0x2E00, 0x2E5D, "Zyyy"), (0x2E80, 0x2E99, "Hani"), (0x2E9B, 0x2EF3, "Hani"),
  (0x2F00, 0x2FD5, "Hani"), (0x2FF0, 0x3004, "Zyyy"), (0x3005, 0x3005, "Hani"),
  (0x3006, 0x3006, "Zyyy"), (0x3007, 0x3007, "Hani"), (0x3008, 0x3020, "Zyyy"),
  (0x3021, 0x3029, "Hani"), (0x302A, 0x302D, "Zinh"), (0x302E, 0x302F, "Hang"),
  (0x3030, 0x3037, "Zyyy"), (0x3038, 0x303B, "Hani"), (0x303C, 0x303F, "Zyyy"),
  (0x3041, 0x3096, "Hira"), (0x3099, 0x309A, "Zinh"), (0x309B, 0x309C, "Zyyy"),
  (0x309D, 0x309F, "Hira"), (0x30A0, 0x30A0, "Zyyy"), (0x30A1, 0x30FA, "Kana"),
  (0x30FB, 0x30FC, "Zyyy"), (0x30FD, 0x30FF, "Kana"), (0x3105, 0x312F, "Bopo"),
  (0x3131, 0x318E, "Hang"), (0x3190, 0x319F, "Zyyy"), (0x31A0, 0x31BF, "Bopo"),
  (0x31C0, 0x31E5, "Zyyy"), (0x31EF, 0x31EF, "Zyyy"), (0x31F0, 0x31FF, "Kana"),
  (0x3200, 0x321E, "Hang"), (0x3220, 0x325F, "Zyyy"), (0x3260, 0x327E, "Hang"),
  (0x327F, 0x32CF, "Zyyy"), (0x32D0, 0x32FE, "Kana"), (0x32FF, 0x32FF, "Zyyy"),
  (0x3300, 0x3357, "Kana"), (0x3358, 0x33FF, "Zyyy"), (0x3400, 0x4DBF, "Hani"),
  (0x4DC0, 0x4DFF, "Zyyy"), (0x4E00, 0x9FFF, "Hani"), (0xA000, 0xA48C, "Yiii"),
  (0xA490, 0xA4C6, "Yiii"), (0xA4D0, 0xA4FF, "Lisu"), (0xA500, 0xA62B, "Vaii"),
  (0xA640, 0xA69F, "Cyrl"), (0xA6A0, 0xA6F7, "Bamu"), (0xA700, 0xA721, "Zyyy"),
  (0xA722, 0xA787, "Latn"), (0xA788, 0xA78A, "Zyyy"), (0xA78B, 0xA7DC, "Latn"),
  (0xA7F1, 0xA7FF, "Latn"), (0xA800, 0xA82C, "Sylo"), (0xA830, 0xA839, "Zyyy"),
  (0xA840, 0xA877, "Phag"), (0xA880, 0xA8C5, "Saur"), (0xA8CE, 0xA8D9, "Saur"),
  (0xA8E0, 0xA8FF, "Deva"), (0xA900, 0xA92D, "Kali"), (0xA92E, 0xA92E, "Zyyy"),
  (0xA92F, 0xA92F, "Kali"), (0xA930, 0xA953, "Rjng"), (0xA95F, 0xA95F, "Rjng"),
  (0xA960, 0xA97C, "Hang"), (0xA980, 0xA9CD, "Java"), (0xA9CF, 0xA9CF, "Zyyy"),
  (0xA9D0, 0xA9D9, "Java"), (0xA9DE, 0xA9DF, "Java"), (0xA9E0, 0xA9FE, "Mymr"),
  (0xAA00, 0xAA36, "Cham"), (0xAA40, 0xAA4D, "Cham"), (0xAA50, 0xAA59, "Cham"),
  (0xAA5C, 0xAA5F, "Cham"), (0xAA60, 0xAA7F, "Mymr"), (0xAA80, 0xAAC2, "Tavt"),
  (0xAADB, 0xAADF, "Tavt"), (0xAAE0, 0xAAF6, "Mtei"), (0xAB01, 0xAB06, "Ethi"),
  (0xAB09, 0xAB0E, "Ethi"), (0xAB11, 0xAB16, "Ethi"), (0xAB20, 0xAB26, "Ethi"),
  (0xAB28, 0xAB2E, "Ethi"), (0xAB30, 0xAB5A, "Latn"), (0xAB5B, 0xAB5B, "Zyyy"),
  (0xAB5C, 0xAB64, "Latn"), (0xAB65, 0xAB65, "Grek"), (0xAB66, 0xAB69, "Latn"),
  (0xAB6A, 0xAB6B, "Zyyy"), (0xAB70, 0xABBF, "Cher"), (0xABC0, 0xABED, "Mtei"),
  (0xABF0, 0xABF9, "Mtei"), (0xAC00, 0xD7A3, "Hang"), (0xD7B0, 0xD7C6, "Hang"),
  (0xD7CB, 0xD7FB, "Hang"), (0xF900, 0xFA6D, "Hani"), (0xFA70, 0xFAD9, "Hani"),
  (0xFB00, 0xFB06, "Latn"), (0xFB13, 0xFB17, "Armn"), (0xFB1D, 0xFB36, "Hebr"),
  (0xFB38, 0xFB3C, "Hebr"), (0xFB3E, 0xFB3E, "Hebr"), (0xFB40, 0xFB41, "Hebr"),
  (0xFB43, 0xFB44, "Hebr"), (0xFB46, 0xFB4F, "Hebr"), (0xFB50, 0xFD3D, "Arab"),
  (0xFD3E, 0xFD3F, "Zyyy"), (0xFD40, 0xFDCF, "Arab"), (0xFDF0, 0xFDFF, "Arab"),
  (0xFE00, 0xFE0F, "Zinh"), (0xFE10, 0xFE19, "Zyyy"), (0xFE20, 0xFE2D, "Zinh"),
  (0xFE2E, 0xFE2F, "Cyrl"), (0xFE30, 0xFE52, "Zyyy"), (0xFE54, 0xFE66, "Zyyy"),
  (0xFE68, 0xFE6B, "Zyyy"), (0xFE70, 0xFE74, "Arab"), (0xFE76, 0xFEFC, "Arab"),
  (0xFEFF, 0xFEFF, "Zyyy"), (0xFF01, 0xFF20, "Zyyy"), (0xFF21, 0xFF3A, "Latn"),
  (0xFF3B, 0xFF40, "Zyyy"), (0xFF41, 0xFF5A, "Latn"), (0xFF5B, 0xFF65, "Zyyy"),
  (0xFF66, 0xFF6F, "Kana"), (0xFF70, 0xFF70, "Zyyy"), (0xFF71, 0xFF9D, "Kana"),
  (0xFF9E, 0xFF9F, "Zyyy"), (0xFFA0, 0xFFBE, "Hang"), (0xFFC2, 0xFFC7, "Hang"),
  (0xFFCA, 0xFFCF, "Hang"), (0xFFD2, 0xFFD7, "Hang"), (0xFFDA, 0xFFDC, "Hang"),
  (0xFFE0, 0xFFE6, "Zyyy"), (0xFFE8, 0xFFEE, "Zyyy"), (0xFFF9, 0xFFFD, "Zyyy")]

/-- The code points of the other planes with their scripts in ascending order. -/
def supplementaryRuns : List (Nat × Nat × String) := [
  (0x10000, 0x1000B, "Linb"), (0x1000D, 0x10026, "Linb"), (0x10028, 0x1003A, "Linb"),
  (0x1003C, 0x1003D, "Linb"), (0x1003F, 0x1004D, "Linb"), (0x10050, 0x1005D, "Linb"),
  (0x10080, 0x100FA, "Linb"), (0x10100, 0x10102, "Zyyy"), (0x10107, 0x10133, "Zyyy"),
  (0x10137, 0x1013F, "Zyyy"), (0x10140, 0x1018E, "Grek"), (0x10190, 0x1019C, "Zyyy"),
  (0x101A0, 0x101A0, "Grek"), (0x101D0, 0x101FC, "Zyyy"), (0x101FD, 0x101FD, "Zinh"),
  (0x10280, 0x1029C, "Lyci"), (0x102A0, 0x102D0, "Cari"), (0x102E0, 0x102E0, "Zinh"),
  (0x102E1, 0x102FB, "Zyyy"), (0x10300, 0x10323, "Ital"), (0x1032D, 0x1032F, "Ital"),
  (0x10330, 0x1034A, "Goth"), (0x10350, 0x1037A, "Perm"), (0x10380, 0x1039D, "Ugar"),
  (0x1039F, 0x1039F, "Ugar"), (0x103A0, 0x103C3, "Xpeo"), (0x103C8, 0x103D5, "Xpeo"),
  (0x10400, 0x1044F, "Dsrt"), (0x10450, 0x1047F, "Shaw"), (0x10480, 0x1049D, "Osma"),
  (0x104A0, 0x104A9, "Osma"), (0x104B0, 0x104D3, "Osge"), (0x104D8, 0x104FB, "Osge"),
  (0x10500, 0x10527, "Elba"), (0x10530, 0x10563, "Aghb"), (0x1056F, 0x1056F, "Aghb"),
  (0x10570, 0x1057A, "Vith"), (0x1057C, 0x1058A, "Vith"), (0x1058C, 0x10592, "Vith"),
  (0x10594, 0x10595, "Vith"), (0x10597, 0x105A1, "Vith"), (0x105A3, 0x105B1, "Vith"),
  (0x105B3, 0x105B9, "Vith"), (0x105BB, 0x105BC, "Vith"), (0x105C0, 0x105F3, "Todr"),
  (0x10600, 0x10736, "Lina"), (0x10740, 0x10755, "Lina"), (0x10760, 0x10767, "Lina"),
  (0x10780, 0x10785, "Latn"), (0x10787, 0x107B0, "Latn"), (0x107B2, 0x107BA, "Latn"),
  (0x10800, 0x10805, "Cprt"), (0x10808, 0x10808, "Cprt"), (0x1080A, 0x10835, "Cprt"),
  (0x10837, 0x10838, "Cprt"), (0x1083C, 0x1083C, "Cprt"), (0x1083F, 0x1083F, "Cprt"),
  (0x10840, 0x10855, "Armi"), (0x10857, 0x1085F, "Armi"), (0x10860, 0x1087F, "Palm"),
  (0x10880, 0x1089E, "Nbat"), (0x108A7, 0x108AF, "Nbat"), (0x108E0, 0x108F2, "Hatr"),
  (0x108F4, 0x108F5, "Hatr"), (0x108FB, 0x108FF, "Hatr"), (0x10900, 0x1091B, "Phnx"),
  (0x1091F, 0x1091F, "Phnx"), (0x10920, 0x10939, "Lydi"), (0x1093F, 0x1093F, "Lydi"),
  (0x10940, 0x10959, "Sidt"), (0x10980, 0x1099F, "Mero"), (0x109A0, 0x109B7, "Merc"),
  (0x109BC, 0x109CF, "Merc"), (0x109D2, 0x109FF, "Merc"), (0x10A00, 0x10A03, "Khar"),
  (0x10A05, 0x10A06, "Khar"), (0x10A0C, 0x10A13, "Khar"), (0x10A15, 0x10A17, "Khar"),
  (0x10A19, 0x10A35, "Khar"), (0x10A38, 0x10A3A, "Khar"), (0x10A3F, 0x10A48, "Khar"),
  (0x10A50, 0x10A58, "Khar"), (0x10A60, 0x10A7F, "Sarb"), (0x10A80, 0x10A9F, "Narb"),
  (0x10AC0, 0x10AE6, "Mani"), (0x10AEB, 0x10AF6, "Mani"), (0x10B00, 0x10B35, "Avst"),
  (0x10B39, 0x10B3F, "Avst"), (0x10B40, 0x10B55, "Prti"), (0x10B58, 0x10B5F, "Prti"),
  (0x10B60, 0x10B72, "Phli"), (0x10B78, 0x10B7F, "Phli"), (0x10B80, 0x10B91, "Phlp"),
  (0x10B99, 0x10B9C, "Phlp"), (0x10BA9, 0x10BAF, "Phlp"), (0x10C00, 0x10C48, "Orkh"),
  (0x10C80, 0x10CB2, "Hung"), (0x10CC0, 0x10CF2, "Hung"), (0x10CFA, 0x10CFF, "Hung"),
  (0x10D00, 0x10D27, "Rohg"), (0x10D30, 0x10D39, "Rohg"), (0x10D40, 0x10D65, "Gara"),
  (0x10D69, 0x10D85, "Gara"), (0x10D8E, 0x10D8F, "Gara"), (0x10E60, 0x10E7E, "Arab"),
  (0x10E80, 0x10EA9, "Yezi"), (0x10EAB, 0x10EAD, "Yezi"), (0x10EB0, 0x10EB1, "Yezi"),
  (0x10EC2, 0x10EC7, "Arab"), (0x10ED0, 0x10ED8, "Arab"), (0x10EFA, 0x10EFF, "Arab"),
  (0x10F00, 0x10F27, "Sogo"), (0x10F30, 0x10F59, "Sogd"), (0x10F70, 0x10F89, "Ougr"),
  (0x10FB0, 0x10FCB, "Chrs"), (0x10FE0, 0x10FF6, "Elym"), (0x11000, 0x1104D, "Brah"),
  (0x11052, 0x11075, "Brah"), (0x1107F, 0x1107F, "Brah"), (0x11080, 0x110C2, "Kthi"),
  (0x110CD, 0x110CD, "Kthi"), (0x110D0, 0x110E8, "Sora"), (0x110F0, 0x110F9, "Sora"),
  (0x11100, 0x11134, "Cakm"), (0x11136, 0x11147, "Cakm"), (0x11150, 0x11176, "Mahj"),
  (0x11180, 0x111DF, "Shrd"), (0x111E1, 0x111F4, "Sinh"), (0x11200, 0x11211, "Khoj"),
  (0x11213, 0x11241, "Khoj"), (0x11280, 0x11286, "Mult"), (0x11288, 0x11288, "Mult"),
  (0x1128A, 0x1128D, "Mult"), (0x1128F, 0x1129D, "Mult"), (0x1129F, 0x112A9, "Mult"),
  (0x112B0, 0x112EA, "Sind"), (0x112F0, 0x112F9, "Sind"), (0x11300, 0x11303, "Gran"),
  (0x11305, 0x1130C, "Gran"), (0x1130F, 0x11310, "Gran"), (0x11313, 0x11328, "Gran"),
  (0x1132A, 0x11330, "Gran"), (0x11332, 0x11333, "Gran"), (0x11335, 0x11339, "Gran"),
  (0x1133B, 0x1133B, "Zinh"), (0x1133C, 0x11344, "Gran"), (0x11347, 0x11348, "Gran"),
  (0x1134B, 0x1134D, "Gran"), (0x11350, 0x11350, "Gran"), (0x11357, 0x11357, "Gran"),
  (0x1135D, 0x11363, "Gran"), (0x11366, 0x1136C, "Gran"), (0x11370, 0x11374, "Gran"),
  (0x11380, 0x11389, "Tutg"), (0x1138B, 0x1138B, "Tutg"), (0x1138E, 0x1138E, "Tutg"),
  (0x11390, 0x113B5, "Tutg"), (0x113B7, 0x113C0, "Tutg"), (0x113C2, 0x113C2, "Tutg"),
  (0x113C5, 0x113C5, "Tutg"), (0x113C7, 0x113CA, "Tutg"), (0x113CC, 0x113D5, "Tutg"),
  (0x113D7, 0x113D8, "Tutg"), (0x113E1, 0x113E2, "Tutg"), (0x11400, 0x1145B, "Newa"),
  (0x1145D, 0x11461, "Newa"), (0x11480, 0x114C7, "Tirh"), (0x114D0, 0x114D9, "Tirh"),
  (0x11580, 0x115B5, "Sidd"), (0x115B8, 0x115DD, "Sidd"), (0x11600, 0x11644, "Modi"),
  (0x11650, 0x11659, "Modi"), (0x11660, 0x1166C, "Mong"), (0x11680, 0x116B9, "Takr"),
  (0x116C0, 0x116C9, "Takr"), (0x116D0, 0x116E3, "Mymr"), (0x11700, 0x1171A, "Ahom"),
  (0x1171D, 0x1172B, "Ahom"), (0x11730, 0x11746, "Ahom"), (0x11800, 0x1183B, "Dogr"),
  (0x118A0, 0x118F2, "Wara"), (0x118FF, 0x118FF, "Wara"), (0x11900, 0x11906, "Diak"),
  (0x11909, 0x11909, "Diak"), (0x1190C, 0x11913, "Diak"), (0x11915, 0x11916, "Diak"),
  (0x11918, 0x11935, "Diak"), (0x11937, 0x11938, "Diak"), (0x1193B, 0x11946, "Diak"),
  (0x11950, 0x11959, "Diak"), (0x119A0, 0x119A7, "Nand"), (0x119AA, 0x119D7, "Nand"),
  (0x119DA, 0x119E4, "Nand"), (0x11A00, 0x11A47, "Zanb"), (0x11A50, 0x11AA2, "Soyo"),
  (0x11AB0, 0x11ABF, "Cans"), (0x11AC0, 0x11AF8, "Pauc"), (0x11B00, 0x11B09, "Deva"),
  (0x11B60, 0x11B67, "Shrd"), (0x11BC0, 0x11BE1, "Sunu"), (0x11BF0, 0x11BF9, "Sunu"),
  (0x11C00, 0x11C08, "Bhks"), (0x11C0A, 0x11C36, "Bhks"), (0x11C38, 0x11C45, "Bhks"),
  (0x11C50, 0x11C6C, "Bhks"), (0x11C70, 0x11C8F, "Marc"), (0x11C92, 0x11CA7, "Marc"),
  (0x11CA9, 0x11CB6, "Marc"), (0x11D00, 0x11D06, "Gonm"), (0x11D08, 0x11D09, "Gonm"),
  (0x11D0B, 0x11D36, "Gonm"), (0x11D3A, 0x11D3A, "Gonm"), (0x11D3C, 0x11D3D, "Gonm"),
  (0x11D3F, 0x11D47, "Gonm"), (0x11D50, 0x11D59, "Gonm"), (0x11D60, 0x11D65, "Gong"),
  (0x11D67, 0x11D68, "Gong"), (0x11D6A, 0x11D8E, "Gong"), (0x11D90, 0x11D91, "Gong"),
  (0x11D93, 0x11D98, "Gong"), (0x11DA0, 0x11DA9, "Gong"), (0x11DB0, 0x11DDB, "Tols"),
  (0x11DE0, 0x11DE9, "Tols"), (0x11EE0, 0x11EF8, "Maka"), (0x11F00, 0x11F10, "Kawi"),
  (0x11F12, 0x11F3A, "Kawi"), (0x11F3E, 0x11F5A, "Kawi"), (0x11FB0, 0x11FB0, "Lisu"),
  (0x11FC0, 0x11FF1, "Taml"), (0x11FFF, 0x11FFF, "Taml"), (0x12000, 0x12399, "Xsux"),
  (0x12400, 0x1246E, "Xsux"), (0x12470, 0x12474, "Xsux"), (0x12480, 0x12543, "Xsux"),
  (0x12F90, 0x12FF2, "Cpmn"), (0x13000, 0x13455, "Egyp"), (0x13460, 0x143FA, "Egyp"),
  (0x14400, 0x14646, "Hluw"), (0x16100, 0x16139, "Gukh"), (0x16800, 0x16A38, "Bamu"),
  (0x16A40, 0x16A5E, "Mroo"), (0x16A60, 0x16A69, "Mroo"), (0x16A6E, 0x16A6F, "Mroo"),
  (0x16A70, 0x16ABE, "Tnsa"), (0x16AC0, 0x16AC9, "Tnsa"), (0x16AD0, 0x16AED, "Bass"),
  (0x16AF0, 0x16AF5, "Bass"), (0x16B00, 0x16B45, "Hmng"), (0x16B50, 0x16B59, "Hmng"),
  (0x16B5B, 0x16B61, "Hmng"), (0x16B63, 0x16B77, "Hmng"), (0x16B7D, 0x16B8F, "Hmng"),
  (0x16D40, 0x16D79, "Krai"), (0x16E40, 0x16E9A, "Medf"), (0x16EA0, 0x16EB8, "Berf"),
  (0x16EBB, 0x16ED3, "Berf"), (0x16F00, 0x16F4A, "Plrd"), (0x16F4F, 0x16F87, "Plrd"),
  (0x16F8F, 0x16F9F, "Plrd"), (0x16FE0, 0x16FE0, "Tang"), (0x16FE1, 0x16FE1, "Nshu"),
  (0x16FE2, 0x16FE3, "Hani"), (0x16FE4, 0x16FE4, "Kits"), (0x16FF0, 0x16FF6, "Hani"),
  (0x17000, 0x18AFF, "Tang"), (0x18B00, 0x18CD5, "Kits"), (0x18CFF, 0x18CFF, "Kits"),
  (0x18D00, 0x18D1E, "Tang"), (0x18D80, 0x18DF2, "Tang"), (0x1AFF0, 0x1AFF3, "Kana"),
  (0x1AFF5, 0x1AFFB, "Kana"), (0x1AFFD, 0x1AFFE, "Kana"), (0x1B000, 0x1B000, "Kana"),
  (0x1B001, 0x1B11F, "Hira"), (0x1B120, 0x1B122, "Kana"), (0x1B132, 0x1B132, "Hira"),
  (0x1B150, 0x1B152, "Hira"), (0x1B155, 0x1B155, "Kana"), (0x1B164, 0x1B167, "Kana"),
  (0x1B170, 0x1B2FB, "Nshu"), (0x1BC00, 0x1BC6A, "Dupl"), (0x1BC70, 0x1BC7C, "Dupl"),
  (0x1BC80, 0x1BC88, "Dupl"), (0x1BC90, 0x1BC99, "Dupl"), (0x1BC9C, 0x1BC9F, "Dupl"),
  (0x1BCA0, 0x1BCA3, "Zyyy"), (0x1CC00, 0x1CCFC, "Zyyy"), (0x1CD00, 0x1CEB3, "Zyyy"),
  (0x1CEBA, 0x1CED0, "Zyyy"), (0x1CEE0, 0x1CEF0, "Zyyy"), (0x1CF00, 0x1CF2D, "Zinh"),
  (0x1CF30, 0x1CF46, "Zinh"), (0x1CF50, 0x1CFC3, "Zyyy"), (0x1D000, 0x1D0F5, "Zyyy"),
  (0x1D100, 0x1D126, "Zyyy"), (0x1D129, 0x1D166, "Zyyy"), (0x1D167, 0x1D169, "Zinh"),
  (0x1D16A, 0x1D17A, "Zyyy"), (0x1D17B, 0x1D182, "Zinh"), (0x1D183, 0x1D184, "Zyyy"),
  (0x1D185, 0x1D18B, "Zinh"), (0x1D18C, 0x1D1A9, "Zyyy"), (0x1D1AA, 0x1D1AD, "Zinh"),
  (0x1D1AE, 0x1D1EA, "Zyyy"), (0x1D200, 0x1D245, "Grek"), (0x1D2C0, 0x1D2D3, "Zyyy"),
  (0x1D2E0, 0x1D2F3, "Zyyy"), (0x1D300, 0x1D356, "Zyyy"), (0x1D360, 0x1D378, "Zyyy"),
  (0x1D400, 0x1D454, "Zyyy"), (0x1D456, 0x1D49C, "Zyyy"), (0x1D49E, 0x1D49F, "Zyyy"),
  (0x1D4A2, 0x1D4A2, "Zyyy"), (0x1D4A5, 0x1D4A6, "Zyyy"), (0x1D4A9, 0x1D4AC, "Zyyy"),
  (0x1D4AE, 0x1D4B9, "Zyyy"), (0x1D4BB, 0x1D4BB, "Zyyy"), (0x1D4BD, 0x1D4C3, "Zyyy"),
  (0x1D4C5, 0x1D505, "Zyyy"), (0x1D507, 0x1D50A, "Zyyy"), (0x1D50D, 0x1D514, "Zyyy"),
  (0x1D516, 0x1D51C, "Zyyy"), (0x1D51E, 0x1D539, "Zyyy"), (0x1D53B, 0x1D53E, "Zyyy"),
  (0x1D540, 0x1D544, "Zyyy"), (0x1D546, 0x1D546, "Zyyy"), (0x1D54A, 0x1D550, "Zyyy"),
  (0x1D552, 0x1D6A5, "Zyyy"), (0x1D6A8, 0x1D7CB, "Zyyy"), (0x1D7CE, 0x1D7FF, "Zyyy"),
  (0x1D800, 0x1DA8B, "Sgnw"), (0x1DA9B, 0x1DA9F, "Sgnw"), (0x1DAA1, 0x1DAAF, "Sgnw"),
  (0x1DF00, 0x1DF1E, "Latn"), (0x1DF25, 0x1DF2A, "Latn"), (0x1E000, 0x1E006, "Glag"),
  (0x1E008, 0x1E018, "Glag"), (0x1E01B, 0x1E021, "Glag"), (0x1E023, 0x1E024, "Glag"),
  (0x1E026, 0x1E02A, "Glag"), (0x1E030, 0x1E06D, "Cyrl"), (0x1E08F, 0x1E08F, "Cyrl"),
  (0x1E100, 0x1E12C, "Hmnp"), (0x1E130, 0x1E13D, "Hmnp"), (0x1E140, 0x1E149, "Hmnp"),
  (0x1E14E, 0x1E14F, "Hmnp"), (0x1E290, 0x1E2AE, "Toto"), (0x1E2C0, 0x1E2F9, "Wcho"),
  (0x1E2FF, 0x1E2FF, "Wcho"), (0x1E4D0, 0x1E4F9, "Nagm"), (0x1E5D0, 0x1E5FA, "Onao"),
  (0x1E5FF, 0x1E5FF, "Onao"), (0x1E6C0, 0x1E6DE, "Tayo"), (0x1E6E0, 0x1E6F5, "Tayo"),
  (0x1E6FE, 0x1E6FF, "Tayo"), (0x1E7E0, 0x1E7E6, "Ethi"), (0x1E7E8, 0x1E7EB, "Ethi"),
  (0x1E7ED, 0x1E7EE, "Ethi"), (0x1E7F0, 0x1E7FE, "Ethi"), (0x1E800, 0x1E8C4, "Mend"),
  (0x1E8C7, 0x1E8D6, "Mend"), (0x1E900, 0x1E94B, "Adlm"), (0x1E950, 0x1E959, "Adlm"),
  (0x1E95E, 0x1E95F, "Adlm"), (0x1EC71, 0x1ECB4, "Zyyy"), (0x1ED01, 0x1ED3D, "Zyyy"),
  (0x1EE00, 0x1EE03, "Arab"), (0x1EE05, 0x1EE1F, "Arab"), (0x1EE21, 0x1EE22, "Arab"),
  (0x1EE24, 0x1EE24, "Arab"), (0x1EE27, 0x1EE27, "Arab"), (0x1EE29, 0x1EE32, "Arab"),
  (0x1EE34, 0x1EE37, "Arab"), (0x1EE39, 0x1EE39, "Arab"), (0x1EE3B, 0x1EE3B, "Arab"),
  (0x1EE42, 0x1EE42, "Arab"), (0x1EE47, 0x1EE47, "Arab"), (0x1EE49, 0x1EE49, "Arab"),
  (0x1EE4B, 0x1EE4B, "Arab"), (0x1EE4D, 0x1EE4F, "Arab"), (0x1EE51, 0x1EE52, "Arab"),
  (0x1EE54, 0x1EE54, "Arab"), (0x1EE57, 0x1EE57, "Arab"), (0x1EE59, 0x1EE59, "Arab"),
  (0x1EE5B, 0x1EE5B, "Arab"), (0x1EE5D, 0x1EE5D, "Arab"), (0x1EE5F, 0x1EE5F, "Arab"),
  (0x1EE61, 0x1EE62, "Arab"), (0x1EE64, 0x1EE64, "Arab"), (0x1EE67, 0x1EE6A, "Arab"),
  (0x1EE6C, 0x1EE72, "Arab"), (0x1EE74, 0x1EE77, "Arab"), (0x1EE79, 0x1EE7C, "Arab"),
  (0x1EE7E, 0x1EE7E, "Arab"), (0x1EE80, 0x1EE89, "Arab"), (0x1EE8B, 0x1EE9B, "Arab"),
  (0x1EEA1, 0x1EEA3, "Arab"), (0x1EEA5, 0x1EEA9, "Arab"), (0x1EEAB, 0x1EEBB, "Arab"),
  (0x1EEF0, 0x1EEF1, "Arab"), (0x1F000, 0x1F02B, "Zyyy"), (0x1F030, 0x1F093, "Zyyy"),
  (0x1F0A0, 0x1F0AE, "Zyyy"), (0x1F0B1, 0x1F0BF, "Zyyy"), (0x1F0C1, 0x1F0CF, "Zyyy"),
  (0x1F0D1, 0x1F0F5, "Zyyy"), (0x1F100, 0x1F1AD, "Zyyy"), (0x1F1E6, 0x1F1FF, "Zyyy"),
  (0x1F200, 0x1F200, "Hira"), (0x1F201, 0x1F202, "Zyyy"), (0x1F210, 0x1F23B, "Zyyy"),
  (0x1F240, 0x1F248, "Zyyy"), (0x1F250, 0x1F251, "Zyyy"), (0x1F260, 0x1F265, "Zyyy"),
  (0x1F300, 0x1F6D8, "Zyyy"), (0x1F6DC, 0x1F6EC, "Zyyy"), (0x1F6F0, 0x1F6FC, "Zyyy"),
  (0x1F700, 0x1F7D9, "Zyyy"), (0x1F7E0, 0x1F7EB, "Zyyy"), (0x1F7F0, 0x1F7F0, "Zyyy"),
  (0x1F800, 0x1F80B, "Zyyy"), (0x1F810, 0x1F847, "Zyyy"), (0x1F850, 0x1F859, "Zyyy"),
  (0x1F860, 0x1F887, "Zyyy"), (0x1F890, 0x1F8AD, "Zyyy"), (0x1F8B0, 0x1F8BB, "Zyyy"),
  (0x1F8C0, 0x1F8C1, "Zyyy"), (0x1F8D0, 0x1F8D8, "Zyyy"), (0x1F900, 0x1FA57, "Zyyy"),
  (0x1FA60, 0x1FA6D, "Zyyy"), (0x1FA70, 0x1FA7C, "Zyyy"), (0x1FA80, 0x1FA8A, "Zyyy"),
  (0x1FA8E, 0x1FAC6, "Zyyy"), (0x1FAC8, 0x1FAC8, "Zyyy"), (0x1FACD, 0x1FADC, "Zyyy"),
  (0x1FADF, 0x1FAEA, "Zyyy"), (0x1FAEF, 0x1FAF8, "Zyyy"), (0x1FB00, 0x1FB92, "Zyyy"),
  (0x1FB94, 0x1FBFA, "Zyyy"), (0x20000, 0x2A6DF, "Hani"), (0x2A700, 0x2B81D, "Hani"),
  (0x2B820, 0x2CEAD, "Hani"), (0x2CEB0, 0x2EBE0, "Hani"), (0x2EBF0, 0x2EE5D, "Hani"),
  (0x2F800, 0x2FA1D, "Hani"), (0x30000, 0x3134A, "Hani"), (0x31350, 0x33479, "Hani"),
  (0xE0001, 0xE0001, "Zyyy"), (0xE0020, 0xE007F, "Zyyy"), (0xE0100, 0xE01EF, "Zinh")]

/-- The code points that are listed with scripts, in ascending order. -/
def extensionRuns : List (Nat × Nat × List String) := [
  (0x00B7, 0x00B7, [
    "Avst", "Cari", "Copt", "Dupl", "Elba", "Geor", "Glag", "Gong", "Goth", "Grek", "Hani", "Latn",
    "Lydi", "Mahj", "Perm", "Shaw"]),
  (0x02BC, 0x02BC, ["Beng", "Cyrl", "Deva", "Latn", "Lisu", "Thai", "Toto"]),
  (0x02C7, 0x02C7, ["Bopo", "Latn"]), (0x02C9, 0x02CB, ["Bopo", "Latn"]),
  (0x02CD, 0x02CD, ["Latn", "Lisu"]), (0x02D7, 0x02D7, ["Latn", "Thai"]),
  (0x02D9, 0x02D9, ["Bopo", "Latn"]),
  (0x0300, 0x0300, ["Cher", "Copt", "Cyrl", "Grek", "Latn", "Perm", "Sunu", "Tale"]),
  (0x0301, 0x0301, ["Cher", "Cyrl", "Grek", "Latn", "Osge", "Sunu", "Tale", "Todr"]),
  (0x0302, 0x0302, ["Cher", "Cyrl", "Latn", "Tfng"]),
  (0x0303, 0x0303, ["Glag", "Latn", "Sunu", "Syrc", "Thai"]),
  (0x0304, 0x0304, [
    "Aghb", "Cher", "Copt", "Cyrl", "Goth", "Grek", "Latn", "Osge", "Syrc", "Tfng", "Todr"]),
  (0x0305, 0x0305, ["Copt", "Elba", "Glag", "Goth", "Kana", "Latn"]),
  (0x0306, 0x0306, ["Cyrl", "Grek", "Latn", "Perm", "Tfng"]),
  (0x0307, 0x0307, ["Copt", "Dupl", "Hebr", "Latn", "Perm", "Syrc", "Tale", "Tfng", "Todr"]),
  (0x0308, 0x0308, [
    "Armn", "Cyrl", "Dupl", "Goth", "Grek", "Hebr", "Latn", "Perm", "Syrc", "Tale", "Tfng"]),
  (0x0309, 0x0309, ["Latn", "Tfng"]), (0x030A, 0x030A, ["Dupl", "Latn", "Syrc"]),
  (0x030B, 0x030B, ["Cher", "Cyrl", "Latn", "Osge"]), (0x030C, 0x030C, ["Cher", "Latn", "Tale"]),
  (0x030D, 0x030D, ["Latn", "Sunu"]), (0x030E, 0x030E, ["Ethi", "Latn"]),
  (0x0310, 0x0310, ["Latn", "Sunu"]), (0x0311, 0x0311, ["Cyrl", "Latn", "Todr"]),
  (0x0313, 0x0313, ["Grek", "Latn", "Perm", "Todr"]),
  (0x0323, 0x0323, ["Cher", "Dupl", "Kana", "Latn", "Syrc", "Tfng"]),
  (0x0324, 0x0324, ["Cher", "Dupl", "Latn", "Syrc"]), (0x0325, 0x0325, ["Latn", "Syrc"]),
  (0x032D, 0x032D, ["Latn", "Sunu", "Syrc"]), (0x032E, 0x032E, ["Latn", "Syrc"]),
  (0x0330, 0x0330, ["Cher", "Latn", "Syrc"]),
  (0x0331, 0x0331, ["Aghb", "Cher", "Goth", "Latn", "Sunu", "Syrc", "Thai"]),
  (0x0342, 0x0342, ["Grek"]), (0x0345, 0x0345, ["Grek"]), (0x0358, 0x0358, ["Latn", "Osge"]),
  (0x035E, 0x035E, ["Aghb", "Latn", "Todr"]), (0x0363, 0x036F, ["Latn"]),
  (0x0374, 0x0375, ["Copt", "Grek"]), (0x0483, 0x0483, ["Cyrl", "Perm"]),
  (0x0484, 0x0484, ["Cyrl", "Glag"]), (0x0485, 0x0486, ["Cyrl", "Latn"]),
  (0x0487, 0x0487, ["Cyrl", "Glag"]), (0x0589, 0x0589, ["Armn", "Geor", "Glag"]),
  (0x060C, 0x060C, ["Arab", "Gara", "Nkoo", "Rohg", "Syrc", "Thaa", "Yezi"]),
  (0x061B, 0x061B, ["Arab", "Gara", "Nkoo", "Rohg", "Syrc", "Thaa", "Yezi"]),
  (0x061C, 0x061C, ["Arab", "Syrc", "Thaa"]),
  (0x061F, 0x061F, ["Adlm", "Arab", "Gara", "Nkoo", "Rohg", "Syrc", "Thaa", "Yezi"]),
  (0x0640, 0x0640, ["Adlm", "Arab", "Mand", "Mani", "Ougr", "Phlp", "Rohg", "Sogd", "Syrc"]),
  (0x064B, 0x0655, ["Arab", "Syrc"]), (0x0660, 0x0669, ["Arab", "Thaa", "Yezi"]),
  (0x0670, 0x0670, ["Arab", "Syrc"]), (0x06D4, 0x06D4, ["Arab", "Rohg"]),
  (0x0951, 0x0951, [
    "Beng", "Deva", "Gran", "Gujr", "Guru", "Knda", "Latn", "Mlym", "Nand", "Newa", "Orya", "Shrd",
    "Taml", "Telu", "Tirh"]),
  (0x0952, 0x0952, [
    "Beng", "Deva", "Gran", "Gujr", "Guru", "Knda", "Latn", "Mlym", "Newa", "Orya", "Taml", "Telu",
    "Tirh"]),
  (0x0964, 0x0964, [
    "Beng", "Deva", "Dogr", "Gong", "Gonm", "Gran", "Gujr", "Guru", "Knda", "Mahj", "Mlym", "Nand",
    "Onao", "Orya", "Sind", "Sinh", "Sylo", "Takr", "Taml", "Telu", "Tirh"]),
  (0x0965, 0x0965, [
    "Beng", "Deva", "Dogr", "Gong", "Gonm", "Gran", "Gujr", "Gukh", "Guru", "Knda", "Limb", "Mahj",
    "Mlym", "Nand", "Onao", "Orya", "Sind", "Sinh", "Sylo", "Takr", "Taml", "Telu", "Tirh"]),
  (0x0966, 0x096F, ["Deva", "Dogr", "Kthi", "Mahj"]), (0x09E6, 0x09EF, ["Beng", "Cakm", "Sylo"]),
  (0x0A66, 0x0A6F, ["Guru", "Mult"]), (0x0AE6, 0x0AEF, ["Gujr", "Khoj"]),
  (0x0BE6, 0x0BF3, ["Gran", "Taml"]), (0x0CE6, 0x0CEF, ["Knda", "Nand", "Tutg"]),
  (0x1040, 0x1049, ["Cakm", "Mymr", "Tale"]), (0x10FB, 0x10FB, ["Geor", "Glag", "Latn"]),
  (0x16EB, 0x16ED, ["Runr"]), (0x1735, 0x1736, ["Buhd", "Hano", "Tagb", "Tglg"]),
  (0x1802, 0x1803, ["Mong", "Phag"]), (0x1805, 0x1805, ["Mong", "Phag"]),
  (0x1CD0, 0x1CD0, ["Beng", "Deva", "Gran", "Knda"]), (0x1CD1, 0x1CD1, ["Deva"]),
  (0x1CD2, 0x1CD2, ["Beng", "Deva", "Gran", "Knda"]), (0x1CD3, 0x1CD3, ["Deva", "Gran", "Knda"]),
  (0x1CD4, 0x1CD4, ["Deva"]), (0x1CD5, 0x1CD5, ["Beng", "Deva", "Newa", "Telu", "Tirh"]),
  (0x1CD6, 0x1CD6, ["Beng", "Deva", "Telu"]), (0x1CD7, 0x1CD7, ["Deva", "Newa", "Shrd"]),
  (0x1CD8, 0x1CD8, ["Beng", "Deva", "Newa", "Telu"]), (0x1CD9, 0x1CD9, ["Deva", "Shrd"]),
  (0x1CDA, 0x1CDA, ["Deva", "Knda", "Mlym", "Orya", "Taml", "Telu"]), (0x1CDB, 0x1CDB, ["Deva"]),
  (0x1CDC, 0x1CDD, ["Deva", "Shrd"]), (0x1CDE, 0x1CDF, ["Deva"]),
  (0x1CE0, 0x1CE0, ["Deva", "Shrd"]), (0x1CE1, 0x1CE1, ["Beng", "Deva"]),
  (0x1CE2, 0x1CE2, ["Deva", "Newa", "Tirh"]), (0x1CE3, 0x1CE8, ["Deva"]),
  (0x1CE9, 0x1CE9, ["Deva", "Nand", "Newa"]), (0x1CEA, 0x1CEA, ["Beng", "Deva", "Shrd"]),
  (0x1CEB, 0x1CEB, ["Deva", "Newa"]), (0x1CEC, 0x1CEC, ["Deva"]),
  (0x1CED, 0x1CED, ["Beng", "Deva", "Newa", "Shrd"]), (0x1CEE, 0x1CF1, ["Deva"]),
  (0x1CF2, 0x1CF2, [
    "Beng", "Deva", "Gran", "Knda", "Mlym", "Nand", "Orya", "Sinh", "Telu", "Tirh", "Tutg"]),
  (0x1CF3, 0x1CF3, ["Deva", "Gran"]), (0x1CF4, 0x1CF4, ["Deva", "Gran", "Knda", "Tutg"]),
  (0x1CF5, 0x1CF6, ["Beng", "Deva"]), (0x1CF7, 0x1CF7, ["Beng"]),
  (0x1CF8, 0x1CF9, ["Deva", "Gran"]), (0x1CFA, 0x1CFA, ["Nand"]), (0x1DC0, 0x1DC1, ["Grek"]),
  (0x1DF8, 0x1DF8, ["Cyrl", "Latn", "Syrc"]), (0x1DFA, 0x1DFA, ["Syrc"]),
  (0x202F, 0x202F, ["Latn", "Mong", "Phag"]), (0x204F, 0x204F, ["Adlm", "Arab"]),
  (0x205A, 0x205A, ["Cari", "Geor", "Glag", "Hung", "Lyci", "Orkh"]),
  (0x205D, 0x205D, ["Cari", "Grek", "Hung", "Mero"]), (0x20F0, 0x20F0, ["Deva", "Gran", "Latn"]),
  (0x2E17, 0x2E17, ["Copt", "Latn"]), (0x2E30, 0x2E30, ["Avst", "Orkh"]),
  (0x2E31, 0x2E31, ["Avst", "Cari", "Geor", "Hung", "Kthi", "Lydi", "Samr"]),
  (0x2E3C, 0x2E3C, ["Dupl"]), (0x2E41, 0x2E41, ["Adlm", "Arab", "Hung"]),
  (0x2E43, 0x2E43, ["Cyrl", "Glag"]), (0x2FF0, 0x2FFF, ["Hani", "Tang"]),
  (0x3001, 0x3001, ["Bopo", "Hang", "Hani", "Hira", "Kana", "Mong", "Yiii"]),
  (0x3002, 0x3002, ["Bopo", "Hang", "Hani", "Hira", "Kana", "Mong", "Phag", "Yiii"]),
  (0x3003, 0x3003, ["Bopo", "Hang", "Hani", "Hira", "Kana"]), (0x3006, 0x3006, ["Hani"]),
  (0x3008, 0x3009, ["Bopo", "Hang", "Hani", "Hira", "Kana", "Mong", "Tibt", "Yiii"]),
  (0x300A, 0x300B, ["Bopo", "Hang", "Hani", "Hira", "Kana", "Lisu", "Mong", "Tibt", "Yiii"]),
  (0x300C, 0x3011, ["Bopo", "Hang", "Hani", "Hira", "Kana", "Yiii"]),
  (0x3013, 0x3013, ["Bopo", "Hang", "Hani", "Hira", "Kana"]),
  (0x3014, 0x301B, ["Bopo", "Hang", "Hani", "Hira", "Kana", "Yiii"]),
  (0x301C, 0x301F, ["Bopo", "Hang", "Hani", "Hira", "Kana"]), (0x302A, 0x302D, ["Bopo", "Hani"]),
  (0x3030, 0x3030, ["Bopo", "Hang", "Hani", "Hira", "Kana"]), (0x3031, 0x3035, ["Hira", "Kana"]),
  (0x3037, 0x3037, ["Bopo", "Hang", "Hani", "Hira", "Kana"]),
  (0x303C, 0x303D, ["Hani", "Hira", "Kana"]), (0x303E, 0x303F, ["Hani"]),
  (0x3099, 0x309C, ["Hira", "Kana"]), (0x30A0, 0x30A0, ["Hira", "Kana"]),
  (0x30FB, 0x30FB, ["Bopo", "Hang", "Hani", "Hira", "Kana", "Yiii"]),
  (0x30FC, 0x30FC, ["Hira", "Kana"]), (0x3190, 0x319F, ["Hani"]), (0x31C0, 0x31E5, ["Hani"]),
  (0x31EF, 0x31EF, ["Hani", "Tang"]), (0x3220, 0x3247, ["Hani"]), (0x3280, 0x32B0, ["Hani"]),
  (0x32C0, 0x32CB, ["Hani"]), (0x32FF, 0x32FF, ["Hani"]), (0x3358, 0x3370, ["Hani"]),
  (0x337B, 0x337F, ["Hani"]), (0x33E0, 0x33FE, ["Hani"]), (0xA66F, 0xA66F, ["Cyrl", "Glag"]),
  (0xA700, 0xA707, ["Hani", "Latn"]),
  (0xA830, 0xA832, [
    "Deva", "Dogr", "Gujr", "Guru", "Khoj", "Knda", "Kthi", "Mahj", "Mlym", "Modi", "Nand", "Shrd",
    "Sind", "Takr", "Tirh", "Tutg"]),
  (0xA833, 0xA835, [
    "Deva", "Dogr", "Gujr", "Guru", "Khoj", "Knda", "Kthi", "Mahj", "Modi", "Nand", "Shrd", "Sind",
    "Takr", "Tirh", "Tutg"]),
  (0xA836, 0xA837, [
    "Deva", "Dogr", "Gujr", "Guru", "Khoj", "Kthi", "Mahj", "Modi", "Sind", "Takr", "Tirh"]),
  (0xA838, 0xA838, [
    "Deva", "Dogr", "Gujr", "Guru", "Khoj", "Kthi", "Mahj", "Modi", "Shrd", "Sind", "Takr",
    "Tirh"]),
  (0xA839, 0xA839, [
    "Deva", "Dogr", "Gujr", "Guru", "Khoj", "Kthi", "Mahj", "Modi", "Sind", "Takr", "Tirh"]),
  (0xA8F1, 0xA8F1, ["Beng", "Deva", "Tutg"]), (0xA8F3, 0xA8F3, ["Deva", "Taml"]),
  (0xA92E, 0xA92E, ["Kali", "Latn", "Mymr"]), (0xA9CF, 0xA9CF, ["Bugi", "Java"]),
  (0xFD3E, 0xFD3F, ["Arab", "Nkoo"]), (0xFDF2, 0xFDF2, ["Arab", "Thaa"]),
  (0xFDFD, 0xFDFD, ["Arab", "Thaa"]), (0xFE45, 0xFE46, ["Bopo", "Hang", "Hani", "Hira", "Kana"]),
  (0xFF61, 0xFF65, ["Bopo", "Hang", "Hani", "Hira", "Kana", "Yiii"]),
  (0xFF70, 0xFF70, ["Hira", "Kana"]), (0xFF9E, 0xFF9F, ["Hira", "Kana"]),
  (0x10100, 0x10101, ["Cpmn", "Cprt", "Linb"]), (0x10102, 0x10102, ["Cprt", "Linb"]),
  (0x10107, 0x10133, ["Cprt", "Lina", "Linb"]), (0x10137, 0x1013F, ["Cprt", "Linb"]),
  (0x102E0, 0x102FB, ["Arab", "Copt"]), (0x10AF2, 0x10AF2, ["Mani", "Ougr"]),
  (0x11301, 0x11301, ["Gran", "Taml"]), (0x11303, 0x11303, ["Gran", "Taml"]),
  (0x1133B, 0x1133C, ["Gran", "Taml"]), (0x11FD0, 0x11FD1, ["Gran", "Taml"]),
  (0x11FD3, 0x11FD3, ["Gran", "Taml"]), (0x1BCA0, 0x1BCA3, ["Dupl"]), (0x1D360, 0x1D371, ["Hani"]),
  (0x1F250, 0x1F251, ["Hani"])]

/-- The scripts with all their names, that of code points without one among them. -/
def scriptNames : List (String × List String) := [
  ("Adlm", ["Adlm", "Adlam"]), ("Aghb", ["Aghb", "Caucasian_Albanian"]), ("Ahom", ["Ahom"]),
  ("Arab", ["Arab", "Arabic"]), ("Armi", ["Armi", "Imperial_Aramaic"]),
  ("Armn", ["Armn", "Armenian"]), ("Avst", ["Avst", "Avestan"]), ("Bali", ["Bali", "Balinese"]),
  ("Bamu", ["Bamu", "Bamum"]), ("Bass", ["Bass", "Bassa_Vah"]), ("Batk", ["Batk", "Batak"]),
  ("Beng", ["Beng", "Bengali"]), ("Berf", ["Berf", "Beria_Erfe"]), ("Bhks", ["Bhks", "Bhaiksuki"]),
  ("Bopo", ["Bopo", "Bopomofo"]), ("Brah", ["Brah", "Brahmi"]), ("Brai", ["Brai", "Braille"]),
  ("Bugi", ["Bugi", "Buginese"]), ("Buhd", ["Buhd", "Buhid"]), ("Cakm", ["Cakm", "Chakma"]),
  ("Cans", ["Cans", "Canadian_Aboriginal"]), ("Cari", ["Cari", "Carian"]), ("Cham", ["Cham"]),
  ("Cher", ["Cher", "Cherokee"]), ("Chrs", ["Chrs", "Chorasmian"]),
  ("Copt", ["Copt", "Coptic", "Qaac"]), ("Cpmn", ["Cpmn", "Cypro_Minoan"]),
  ("Cprt", ["Cprt", "Cypriot"]), ("Cyrl", ["Cyrl", "Cyrillic"]), ("Deva", ["Deva", "Devanagari"]),
  ("Diak", ["Diak", "Dives_Akuru"]), ("Dogr", ["Dogr", "Dogra"]), ("Dsrt", ["Dsrt", "Deseret"]),
  ("Dupl", ["Dupl", "Duployan"]), ("Egyp", ["Egyp", "Egyptian_Hieroglyphs"]),
  ("Elba", ["Elba", "Elbasan"]), ("Elym", ["Elym", "Elymaic"]), ("Ethi", ["Ethi", "Ethiopic"]),
  ("Gara", ["Gara", "Garay"]), ("Geor", ["Geor", "Georgian"]), ("Glag", ["Glag", "Glagolitic"]),
  ("Gong", ["Gong", "Gunjala_Gondi"]), ("Gonm", ["Gonm", "Masaram_Gondi"]),
  ("Goth", ["Goth", "Gothic"]), ("Gran", ["Gran", "Grantha"]), ("Grek", ["Grek", "Greek"]),
  ("Gujr", ["Gujr", "Gujarati"]), ("Gukh", ["Gukh", "Gurung_Khema"]),
  ("Guru", ["Guru", "Gurmukhi"]), ("Hang", ["Hang", "Hangul"]), ("Hani", ["Hani", "Han"]),
  ("Hano", ["Hano", "Hanunoo"]), ("Hatr", ["Hatr", "Hatran"]), ("Hebr", ["Hebr", "Hebrew"]),
  ("Hira", ["Hira", "Hiragana"]), ("Hluw", ["Hluw", "Anatolian_Hieroglyphs"]),
  ("Hmng", ["Hmng", "Pahawh_Hmong"]), ("Hmnp", ["Hmnp", "Nyiakeng_Puachue_Hmong"]),
  ("Hung", ["Hung", "Old_Hungarian"]), ("Ital", ["Ital", "Old_Italic"]),
  ("Java", ["Java", "Javanese"]), ("Kali", ["Kali", "Kayah_Li"]), ("Kana", ["Kana", "Katakana"]),
  ("Kawi", ["Kawi"]), ("Khar", ["Khar", "Kharoshthi"]), ("Khmr", ["Khmr", "Khmer"]),
  ("Khoj", ["Khoj", "Khojki"]), ("Kits", ["Kits", "Khitan_Small_Script"]),
  ("Knda", ["Knda", "Kannada"]), ("Krai", ["Krai", "Kirat_Rai"]), ("Kthi", ["Kthi", "Kaithi"]),
  ("Lana", ["Lana", "Tai_Tham"]), ("Laoo", ["Laoo", "Lao"]), ("Latn", ["Latn", "Latin"]),
  ("Lepc", ["Lepc", "Lepcha"]), ("Limb", ["Limb", "Limbu"]), ("Lina", ["Lina", "Linear_A"]),
  ("Linb", ["Linb", "Linear_B"]), ("Lisu", ["Lisu"]), ("Lyci", ["Lyci", "Lycian"]),
  ("Lydi", ["Lydi", "Lydian"]), ("Mahj", ["Mahj", "Mahajani"]), ("Maka", ["Maka", "Makasar"]),
  ("Mand", ["Mand", "Mandaic"]), ("Mani", ["Mani", "Manichaean"]), ("Marc", ["Marc", "Marchen"]),
  ("Medf", ["Medf", "Medefaidrin"]), ("Mend", ["Mend", "Mende_Kikakui"]),
  ("Merc", ["Merc", "Meroitic_Cursive"]), ("Mero", ["Mero", "Meroitic_Hieroglyphs"]),
  ("Mlym", ["Mlym", "Malayalam"]), ("Modi", ["Modi"]), ("Mong", ["Mong", "Mongolian"]),
  ("Mroo", ["Mroo", "Mro"]), ("Mtei", ["Mtei", "Meetei_Mayek"]), ("Mult", ["Mult", "Multani"]),
  ("Mymr", ["Mymr", "Myanmar"]), ("Nagm", ["Nagm", "Nag_Mundari"]),
  ("Nand", ["Nand", "Nandinagari"]), ("Narb", ["Narb", "Old_North_Arabian"]),
  ("Nbat", ["Nbat", "Nabataean"]), ("Newa", ["Newa"]), ("Nkoo", ["Nkoo", "Nko"]),
  ("Nshu", ["Nshu", "Nushu"]), ("Ogam", ["Ogam", "Ogham"]), ("Olck", ["Olck", "Ol_Chiki"]),
  ("Onao", ["Onao", "Ol_Onal"]), ("Orkh", ["Orkh", "Old_Turkic"]), ("Orya", ["Orya", "Oriya"]),
  ("Osge", ["Osge", "Osage"]), ("Osma", ["Osma", "Osmanya"]), ("Ougr", ["Ougr", "Old_Uyghur"]),
  ("Palm", ["Palm", "Palmyrene"]), ("Pauc", ["Pauc", "Pau_Cin_Hau"]),
  ("Perm", ["Perm", "Old_Permic"]), ("Phag", ["Phag", "Phags_Pa"]),
  ("Phli", ["Phli", "Inscriptional_Pahlavi"]), ("Phlp", ["Phlp", "Psalter_Pahlavi"]),
  ("Phnx", ["Phnx", "Phoenician"]), ("Plrd", ["Plrd", "Miao"]),
  ("Prti", ["Prti", "Inscriptional_Parthian"]), ("Rjng", ["Rjng", "Rejang"]),
  ("Rohg", ["Rohg", "Hanifi_Rohingya"]), ("Runr", ["Runr", "Runic"]),
  ("Samr", ["Samr", "Samaritan"]), ("Sarb", ["Sarb", "Old_South_Arabian"]),
  ("Saur", ["Saur", "Saurashtra"]), ("Sgnw", ["Sgnw", "SignWriting"]),
  ("Shaw", ["Shaw", "Shavian"]), ("Shrd", ["Shrd", "Sharada"]), ("Sidd", ["Sidd", "Siddham"]),
  ("Sidt", ["Sidt", "Sidetic"]), ("Sind", ["Sind", "Khudawadi"]), ("Sinh", ["Sinh", "Sinhala"]),
  ("Sogd", ["Sogd", "Sogdian"]), ("Sogo", ["Sogo", "Old_Sogdian"]),
  ("Sora", ["Sora", "Sora_Sompeng"]), ("Soyo", ["Soyo", "Soyombo"]),
  ("Sund", ["Sund", "Sundanese"]), ("Sunu", ["Sunu", "Sunuwar"]),
  ("Sylo", ["Sylo", "Syloti_Nagri"]), ("Syrc", ["Syrc", "Syriac"]), ("Tagb", ["Tagb", "Tagbanwa"]),
  ("Takr", ["Takr", "Takri"]), ("Tale", ["Tale", "Tai_Le"]), ("Talu", ["Talu", "New_Tai_Lue"]),
  ("Taml", ["Taml", "Tamil"]), ("Tang", ["Tang", "Tangut"]), ("Tavt", ["Tavt", "Tai_Viet"]),
  ("Tayo", ["Tayo", "Tai_Yo"]), ("Telu", ["Telu", "Telugu"]), ("Tfng", ["Tfng", "Tifinagh"]),
  ("Tglg", ["Tglg", "Tagalog"]), ("Thaa", ["Thaa", "Thaana"]), ("Thai", ["Thai"]),
  ("Tibt", ["Tibt", "Tibetan"]), ("Tirh", ["Tirh", "Tirhuta"]), ("Tnsa", ["Tnsa", "Tangsa"]),
  ("Todr", ["Todr", "Todhri"]), ("Tols", ["Tols", "Tolong_Siki"]), ("Toto", ["Toto"]),
  ("Tutg", ["Tutg", "Tulu_Tigalari"]), ("Ugar", ["Ugar", "Ugaritic"]), ("Vaii", ["Vaii", "Vai"]),
  ("Vith", ["Vith", "Vithkuqi"]), ("Wara", ["Wara", "Warang_Citi"]), ("Wcho", ["Wcho", "Wancho"]),
  ("Xpeo", ["Xpeo", "Old_Persian"]), ("Xsux", ["Xsux", "Cuneiform"]), ("Yezi", ["Yezi", "Yezidi"]),
  ("Yiii", ["Yiii", "Yi"]), ("Zanb", ["Zanb", "Zanabazar_Square"]),
  ("Zinh", ["Zinh", "Inherited", "Qaai"]), ("Zyyy", ["Zyyy", "Common"]),
  ("Zzzz", ["Zzzz", "Unknown"])]

/-! ## Scripts of a code point -/

/-- What is said of a code point in an ascending list.  The first range that begins after it ends the
search. -/
def findRun {α : Type} (c : Nat) : List (Nat × Nat × α) → Option α
  | [] => none
  | (first, last, a) :: rest =>
    if c < first then none
    else if c ≤ last then some a
    else findRun c rest

/-- The script of the code point, which is unknown if it is in no table. -/
def scriptOf (c : Nat) : String :=
  (findRun c (if c < 0x10000 then basicRuns else supplementaryRuns)).getD "Zzzz"

/-- The scripts that the code point is used with. -/
def scriptsOf (c : Nat) : List String := (findRun c extensionRuns).getD [scriptOf c]

end RegexComposition.Unicode
