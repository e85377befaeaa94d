import QueryClient.Text.Lower
import QueryClient.Text.Printable

/-!
# Letters of host labels

An internationalised host label may hold a **host letter**: a small letter,
mark or digit that stays itself under every normalisation of Unicode. The
table lists the ranges, among the printable characters that are their own
lower case; of others it says whatever makes the ranges longest.

A **joining mark** may melt into the letter before it. A label that holds
one is taken to be in an unfinished form and is refused.
-/

namespace QueryClient.Url

/-- The ranges beyond ASCII of the host letters. -/
def hostLetters : CharSet :=
  ⟨[
    0xDF, 0xF7, 0xF8, 0x133, 0x135, 0x140, 0x142, 0x149, 0x14B, 0x17F,
    0x180, 0x1C6, 0x1CE, 0x1F3, 0x1F5, 0x2B0, 0x2B9, 0x2C2, 0x2C6, 0x2D2,
    0x2EC, 0x2ED, 0x2EE, 0x2EF, 0x300, 0x340, 0x342, 0x343, 0x346, 0x34F,
    0x350, 0x374, 0x377, 0x37A, 0x37B, 0x37E, 0x390, 0x3D0, 0x3D7, 0x3F0,
    0x3F3, 0x3F5, 0x3F8, 0x482, 0x483, 0x488, 0x48B, 0x55A, 0x560, 0x587,
    0x588, 0x589, 0x591, 0x5BE, 0x5BF, 0x5C0, 0x5C1, 0x5C3, 0x5C4, 0x5C6,
    0x5C7, 0x5F3, 0x610, 0x61B, 0x620, 0x640, 0x641, 0x660, 0x66E, 0x675,
    0x679, 0x6D4, 0x6D5, 0x6DE, 0x6DF, 0x6E9, 0x6EA, 0x6F0, 0x6FA, 0x700,
    0x710, 0x7F6, 0x7FD, 0x7FE, 0x800, 0x830, 0x840, 0x85E, 0x860, 0x888,
    0x889, 0x958, 0x960, 0x964, 0x966, 0x970, 0x971, 0x9DC, 0x9E0, 0x9F2,
    0x9FC, 0x9FD, 0x9FE, 0xA33, 0xA35, 0xA36, 0xA38, 0xA59, 0xA5C, 0xA5E,
    0xA66, 0xA76, 0xA81, 0xAF0, 0xAF9, 0xB5C, 0xB5F, 0xB70, 0xB71, 0xB72,
    0xB82, 0xBF0, 0xC00, 0xC77, 0xC80, 0xC84, 0xC85, 0xD4F, 0xD54, 0xD58,
    0xD5F, 0xD70, 0xD7A, 0xDF4, 0xE01, 0xE33, 0xE34, 0xE3F, 0xE40, 0xE4F,
    0xE50, 0xE5A, 0xE81, 0xEB3, 0xEB4, 0xEDC, 0xEDE, 0xF01, 0xF0B, 0xF0C,
    0xF18, 0xF1A, 0xF20, 0xF2A, 0xF35, 0xF36, 0xF37, 0xF38, 0xF39, 0xF3A,
    0xF3E, 0xF43, 0xF44, 0xF4D, 0xF4E, 0xF52, 0xF53, 0xF57, 0xF58, 0xF5C,
    0xF5D, 0xF69, 0xF6A, 0xF73, 0xF74, 0xF75, 0xF7A, 0xF81, 0xF82, 0xF85,
    0xF86, 0xF93, 0xF94, 0xF9D, 0xF9E, 0xFA2, 0xFA3, 0xFA7, 0xFA8, 0xFAC,
    0xFAD, 0xFB9, 0xFBA, 0xFBE, 0xFC6, 0xFC7, 0x1000, 0x104A, 0x1050,
    0x109E, 0x10D0, 0x10FB, 0x10FD, 0x1100, 0x1200, 0x1360, 0x1380, 0x1390,
    0x1401, 0x166D, 0x166F, 0x169B, 0x16A0, 0x16EB, 0x16F1, 0x1735, 0x1740,
    0x17B4, 0x17B6, 0x17D4, 0x17D7, 0x17D8, 0x17DC, 0x17F0, 0x1810, 0x1940,
    0x1946, 0x19DA, 0x1A00, 0x1A1E, 0x1A20, 0x1AA0, 0x1AA7, 0x1AA8, 0x1AB0,
    0x1ABE, 0x1ABF, 0x1B5A, 0x1B6B, 0x1B74, 0x1B80, 0x1BFC, 0x1C00, 0x1C3B,
    0x1C40, 0x1C7E, 0x1CD0, 0x1CD3, 0x1CD4, 0x1D2C, 0x1D2F, 0x1D30, 0x1D3B,
    0x1D3C, 0x1D4E, 0x1D4F, 0x1D6B, 0x1D78, 0x1D79, 0x1D9B, 0x1DC0, 0x1E9A,
    0x1E9C, 0x1F71, 0x1F72, 0x1F73, 0x1F74, 0x1F75, 0x1F76, 0x1F77, 0x1F78,
    0x1F79, 0x1F7A, 0x1F7B, 0x1F7C, 0x1F7D, 0x1FB0, 0x1FB2, 0x1FB6, 0x1FB7,
    0x1FC6, 0x1FC7, 0x1FD0, 0x1FD3, 0x1FD6, 0x1FDD, 0x1FE0, 0x1FE3, 0x1FE4,
    0x1FED, 0x1FF6, 0x1FF7, 0x214E, 0x214F, 0x2184, 0x2185, 0x2C30, 0x2C7C,
    0x2C81, 0x2CE5, 0x2CEC, 0x2CF9, 0x2D00, 0x2D6F, 0x2D7F, 0x2E00, 0x2E2F,
    0x2E30, 0x3005, 0x3008, 0x302A, 0x302E, 0x303C, 0x303D, 0x3041, 0x309B,
    0x309D, 0x309F, 0x30A1, 0x30FB, 0x30FC, 0x30FF, 0x3105, 0x3131, 0x31A0,
    0x31C0, 0x31F0, 0x3200, 0x3400, 0x4DC0, 0x4E00, 0xA490, 0xA4D0, 0xA4FE,
    0xA500, 0xA60D, 0xA610, 0xA670, 0xA674, 0xA67E, 0xA67F, 0xA69C, 0xA69E,
    0xA6E6, 0xA6F0, 0xA6F2, 0xA717, 0xA720, 0xA723, 0xA770, 0xA771, 0xA789,
    0xA78C, 0xA7F2, 0xA7F6, 0xA7F8, 0xA7FA, 0xA828, 0xA82C, 0xA830, 0xA840,
    0xA874, 0xA880, 0xA8CE, 0xA8D0, 0xA8F8, 0xA8FB, 0xA8FC, 0xA8FD, 0xA92E,
    0xA930, 0xA95F, 0xA980, 0xA9C1, 0xA9CF, 0xA9DE, 0xA9E0, 0xAA5C, 0xAA60,
    0xAA77, 0xAA7A, 0xAADE, 0xAAE0, 0xAAF0, 0xAAF2, 0xAB5B, 0xAB60, 0xAB69,
    0xABC0, 0xABEB, 0xABEC, 0xD7B0, 0xFA0E, 0xFA10, 0xFA11, 0xFA12, 0xFA13,
    0xFA15, 0xFA1F, 0xFA20, 0xFA21, 0xFA22, 0xFA23, 0xFA25, 0xFA27, 0xFA2A,
    0xFB1E, 0xFB1F, 0xFE20, 0xFE30, 0xFE73, 0xFE74, 0x10000, 0x10100,
    0x101FD, 0x102E1, 0x10300, 0x10320, 0x1032D, 0x10341, 0x10342, 0x1034A,
    0x10350, 0x1039F, 0x103A0, 0x103D0, 0x10428, 0x1056F, 0x10597, 0x10781,
    0x10800, 0x10857, 0x10860, 0x10877, 0x10880, 0x108A7, 0x108E0, 0x108FB,
    0x10900, 0x10916, 0x10920, 0x1093F, 0x10980, 0x109BC, 0x109BE, 0x109C0,
    0x10A00, 0x10A40, 0x10A60, 0x10A7D, 0x10A80, 0x10A9D, 0x10AC0, 0x10AC8,
    0x10AC9, 0x10AEB, 0x10B00, 0x10B39, 0x10B40, 0x10B58, 0x10B60, 0x10B78,
    0x10B80, 0x10B99, 0x10C00, 0x10CFA, 0x10D00, 0x10E60, 0x10E80, 0x10EAD,
    0x10EB0, 0x10F1D, 0x10F27, 0x10F51, 0x10F70, 0x10F86, 0x10FB0, 0x10FC5,
    0x10FE0, 0x11047, 0x11066, 0x110BB, 0x110C2, 0x11140, 0x11144, 0x11174,
    0x11176, 0x111C5, 0x111C9, 0x111CD, 0x111CE, 0x111DB, 0x111DC, 0x111DD,
    0x11200, 0x11238, 0x1123E, 0x112A9, 0x112B0, 0x1144B, 0x11450, 0x1145A,
    0x1145E, 0x114C6, 0x114C7, 0x115C1, 0x115D8, 0x11641, 0x11644, 0x11660,
    0x11680, 0x116B9, 0x116C0, 0x1173A, 0x11740, 0x1183B, 0x118C0, 0x118EA,
    0x118FF, 0x11944, 0x11950, 0x119E2, 0x119E3, 0x11A3F, 0x11A47, 0x11A9A,
    0x11A9D, 0x11A9E, 0x11AB0, 0x11C41, 0x11C50, 0x11C5A, 0x11C72, 0x11EF7,
    0x11FB0, 0x11FC0, 0x12000, 0x12400, 0x12480, 0x12FF1, 0x13000, 0x16A6E,
    0x16A70, 0x16AF5, 0x16B00, 0x16B37, 0x16B40, 0x16B44, 0x16B50, 0x16B5B,
    0x16B63, 0x16E80, 0x16F00, 0x16FE2, 0x16FE3, 0x1BC9C, 0x1BC9D, 0x1BC9F,
    0x1CF00, 0x1CF50, 0x1DA00, 0x1DA37, 0x1DA3B, 0x1DA6D, 0x1DA75, 0x1DA76,
    0x1DA84, 0x1DA85, 0x1DA9B, 0x1E14F, 0x1E290, 0x1E2FF, 0x1E7E0, 0x1E8C7,
    0x1E8D0, 0x1E95E, 0x20000, 0x2F800, 0x30000, 0xE0100]⟩

/-- The ranges of the joining marks, among the host letters. -/
def joiningMarks : CharSet :=
  ⟨[
    0x300, 0x305, 0x306, 0x30D, 0x30F, 0x310, 0x311, 0x312, 0x313, 0x315,
    0x31B, 0x31C, 0x323, 0x329, 0x32D, 0x32F, 0x330, 0x332, 0x338, 0x339,
    0x342, 0x346, 0x653, 0x656, 0x93C, 0x93D, 0x9BE, 0x9BF, 0x9D7, 0x9E0,
    0xB3E, 0xB3F, 0xB56, 0xB5F, 0xBBE, 0xBBF, 0xBD7, 0xBE6, 0xC56, 0xC58,
    0xCC2, 0xCC3, 0xCD5, 0xCDD, 0xD3E, 0xD3F, 0xD57, 0xD5F, 0xDCA, 0xDD0,
    0xDDF, 0xDE6, 0x102E, 0x102F, 0x1B35, 0x1B36, 0x3099, 0x309D, 0x110BA,
    0x110C2, 0x11127, 0x11128, 0x1133E, 0x1133F, 0x11357, 0x1135D, 0x114B0,
    0x114B1, 0x114BA, 0x114BB, 0x114BD, 0x114BE, 0x115AF, 0x115B0, 0x11930,
    0x11931]⟩

/-- Whether the character may stand in a host label once the label is in
lower case. -/
def isHostLetter (c : Char) : Bool :=
  if c.toNat < 128 then c.isDigit || c.isLower || c == '-'
  else Text.isPrintable c && Text.lowerOf c == [c] && hostLetters.contains c

end QueryClient.Url
